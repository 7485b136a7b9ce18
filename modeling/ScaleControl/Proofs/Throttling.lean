import Mathlib
import ScaleControl.Scenario.Dispatchers
import ScaleControl.Scenario.Probe
import ScaleControl.Proofs.Answering
/-!
# Throttled effects: alerts and probes

Two parts of the autoscaler act at most once per interval, and each remembers only when its
last action succeeded. The alerter sends an alert only if no alert of the same category went
out less than its frequency ago; the reading cache asks the probe only if no reading was
taken less than its refresh interval ago. A failure, of a dispatcher or of the probe, is not
remembered.

A run answers its calls one after another (`answerEach`). Over calls whose times never go
back, remembering the last success is remembering them all: some earlier success is nearer
than the interval exactly when the last one is (`window_open_iff`). So each reply of a run is
decided by the replies before it. An alert goes out exactly when alerting is on, a dispatcher
exists, none fails, and no alert of its category went out less than the frequency ago; it is
delivered to the dispatchers in order, up to the first that fails
(`alerts_keep_their_windows`). The cache asks the probe exactly when no probe succeeded less
than the refresh interval ago, and otherwise answers the reading of the last one that did
(`cache_probes_when_stale`).
-/
namespace ScaleControl

/-! ### The last success decides -/

/-- Of successes in the order of their times, all at most `t`, the last one is the nearest to
`t`: it lies at least `f` before `t` exactly when all of them do. -/
theorem window_open_iff {α : Type} {time : α → Nat} {xs : List α}
    (hsorted : xs.Pairwise fun a b => time a ≤ time b) {t : Nat} (hle : ∀ x ∈ xs, time x ≤ t)
    (f : Nat) : (∀ x, xs.getLast? = some x → f ≤ t - time x) ↔ ∀ x ∈ xs, f ≤ t - time x := by
  constructor
  · intro hlast x hx
    obtain ⟨l, hl⟩ : ∃ l, xs.getLast? = some l := by
      cases h : xs.getLast? with
      | none => rw [List.getLast?_eq_none_iff] at h; subst h; cases hx
      | some l => exact ⟨l, rfl⟩
    obtain ⟨ys, rfl⟩ := List.getLast?_eq_some_iff.mp hl
    -- every success comes no later than the last
    have hxl : time x ≤ time l := by
      rcases List.mem_append.mp hx with hx | hx
      · exact (List.pairwise_append.mp hsorted).2.2 x hx l (List.mem_singleton_self l)
      · rw [List.mem_singleton.mp hx]
    have hlt := hle l (List.mem_append_right _ (List.mem_singleton_self l))
    have := hlast l hl
    omega
  · intro hall x hx
    exact hall x (List.mem_of_getLast? hx)

/-! ### Delivering an alert -/

/-- A list of flags is all down, or has a first one up after some that are down. -/
theorem all_false_or_first_true (l : List Bool) :
    (∀ b ∈ l, b = false) ∨ ∃ k rest, l = List.replicate k false ++ true :: rest := by
  induction l with
  | nil => exact .inl (by simp)
  | cons b l ih =>
    cases b with
    | true => exact .inr ⟨0, l, rfl⟩
    | false =>
      rcases ih with hall | ⟨k, rest, rfl⟩
      · exact .inl (by simpa using hall)
      · exact .inr ⟨k + 1, rest, rfl⟩

section Delivery

variable {γ : Type}

/-- Numbering dispatchers from `n`, the first `k`, which do not fail, get `n` to `n + k - 1`. -/
theorem map_zipIdx_replicate_append (φ : Bool × Nat → γ) (k n : Nat) (rest : List Bool) :
    ((List.replicate k false ++ rest).zipIdx n).map φ =
      (List.range' n k).map (fun i => φ (false, i)) ++ (rest.zipIdx (n + k)).map φ := by
  induction k generalizing n with
  | zero => simp
  | succ k ih =>
    rw [List.replicate_succ, List.cons_append, List.zipIdx_cons, List.map_cons, ih,
      List.range'_succ, List.map_cons, List.cons_append, Nat.add_right_comm, Nat.add_assoc]

theorem takeWhile_zipIdx_replicate_append (q : Bool × Nat → Bool)
    (hq : ∀ i, q (false, i) = true) (k n : Nat) (rest : List Bool) :
    ((List.replicate k false ++ rest).zipIdx n).takeWhile q =
      (List.range' n k).map (fun i => (false, i)) ++ (rest.zipIdx (n + k)).takeWhile q := by
  induction k generalizing n with
  | zero => simp
  | succ k ih =>
    rw [List.replicate_succ, List.cons_append, List.zipIdx_cons, List.takeWhile_cons_of_pos (hq n),
      ih, List.range'_succ, List.map_cons, List.cons_append, Nat.add_right_comm, Nat.add_assoc]

end Delivery

namespace Alerter

/-- Dispatchers that all deliver lead to no failure. -/
theorem firstFailure_append_of_ok {l : List (Outcome Unit)} (hl : ∀ o ∈ l, o = .ok ())
    (l' : List (Outcome Unit)) : firstFailure (l ++ l') = firstFailure l' := by
  induction l with
  | nil => rfl
  | cons o l ih =>
    rw [hl o List.mem_cons_self, List.cons_append, firstFailure]
    exact ih fun o' ho' => hl o' (List.mem_cons_of_mem _ ho')

end Alerter

/-- Dispatchers none of which fails all deliver, in order. -/
theorem deliver_replicate (k : Nat) (message : String) :
    Alerter.firstFailure (deliver (List.replicate k false) message).1 = none ∧
      (deliver (List.replicate k false) message).2 =
        (List.range k).map fun i => toString i ++ ": " ++ message := by
  have hmap := map_zipIdx_replicate_append (fun p : Bool × Nat =>
    if p.1 then (Except.error (ScaleError.dispatch ("dispatcher " ++ toString p.2 ++ " down")) :
      Outcome Unit) else .ok ()) k 0 []
  have htake := takeWhile_zipIdx_replicate_append (fun p : Bool × Nat => !p.1) (fun _ => rfl) k 0 []
  simp only [List.append_nil, List.zipIdx_nil, List.map_nil, List.takeWhile_nil] at hmap htake
  refine ⟨?_, ?_⟩
  · show Alerter.firstFailure ((List.replicate k false).zipIdx.map _) = none
    rw [hmap, ← List.append_nil ((List.range' 0 k).map _),
      Alerter.firstFailure_append_of_ok (by simp)]
    rfl
  · show ((List.replicate k false).zipIdx.takeWhile _).map _ = _
    rw [htake, List.map_map, List.range_eq_range']
    rfl

/-- Dispatchers deliver in order up to the first that fails, whose error is the alert's. -/
theorem deliver_replicate_append (k : Nat) (rest : List Bool) (message : String) :
    Alerter.firstFailure (deliver (List.replicate k false ++ true :: rest) message).1 =
        some (.dispatch ("dispatcher " ++ toString k ++ " down")) ∧
      (deliver (List.replicate k false ++ true :: rest) message).2 =
        (List.range k).map fun i => toString i ++ ": " ++ message := by
  have hmap := map_zipIdx_replicate_append (fun p : Bool × Nat =>
    if p.1 then (Except.error (ScaleError.dispatch ("dispatcher " ++ toString p.2 ++ " down")) :
      Outcome Unit) else .ok ()) k 0 (true :: rest)
  have htake := takeWhile_zipIdx_replicate_append (fun p : Bool × Nat => !p.1) (fun _ => rfl) k 0
    (true :: rest)
  refine ⟨?_, ?_⟩
  · show Alerter.firstFailure ((List.replicate k false ++ true :: rest).zipIdx.map _) = _
    rw [hmap, Alerter.firstFailure_append_of_ok (by simp)]
    simp [List.zipIdx_cons, Alerter.firstFailure]
  · show ((List.replicate k false ++ true :: rest).zipIdx.takeWhile _).map _ = _
    rw [htake, List.zipIdx_cons, List.takeWhile_cons_of_neg (by simp), List.append_nil,
      List.map_map, List.range_eq_range']
    rfl

/-! ### Alerts over a run -/

/-- One alert of a run: its category, when it is sent (milliseconds), which dispatchers fail
on it, in order, and its text. -/
structure AlertCall where
  category : Category
  time : Nat
  failing : List Bool
  message : String

/-- The reply to an alert: whether it went out, or the first failing dispatcher's error, and
the texts the dispatchers delivered. -/
structure AlertReply where
  call : AlertCall
  result : Outcome Bool
  delivered : List String

/-- Whether the alert of a reply went out. -/
def AlertReply.sent (r : AlertReply) : Bool :=
  match r.result with
  | .ok b => b
  | .error _ => false

theorem AlertReply.sent_eq_true_iff (r : AlertReply) : r.sent = true ↔ r.result = .ok true := by
  unfold sent
  cases r.result <;> simp

namespace Alerter

/-- Sends the alert of a call through its dispatchers. -/
def reply (a : Alerter) (x : AlertCall) : Alerter × AlertReply :=
  let s := a.send x.failing x.category x.time x.message
  (s.1, ⟨x, s.2.1, s.2.2⟩)

theorem send_eq (a : Alerter) (failing : List Bool) (c : Category) (now : Nat) (m : String) :
    a.send failing c now m =
      ((a.dispatch c now (deliver failing m).1).1, (a.dispatch c now (deliver failing m).1).2,
        if a.admits c now then (deliver failing m).2 else []) := rfl

/-- An alerter admits an alert when alerting is on, some dispatcher exists and the last alert
of its category went out at least the frequency ago. -/
theorem admits_eq_true_iff (a : Alerter) (c : Category) (now : Nat) :
    a.admits c now = true ↔
      a.disabled = false ∧ 0 < a.dispatchers ∧ ∀ s, a.sentAt c = some s → a.frequencyMs ≤ now - s := by
  unfold admits
  cases hs : a.sentAt c <;> simp [and_assoc]

theorem dispatch_of_admits_eq_false {a : Alerter} {c : Category} {now : Nat}
    (h : a.admits c now = false) (os : List (Outcome Unit)) : a.dispatch c now os = (a, .ok false) := by
  simp [dispatch, h]

theorem dispatch_of_firstFailure_eq_some {a : Alerter} {c : Category} {now : Nat}
    (h : a.admits c now = true) {os : List (Outcome Unit)} {e : ScaleError}
    (he : firstFailure os = some e) : a.dispatch c now os = (a, .error e) := by
  simp [dispatch, h, he]

theorem dispatch_of_firstFailure_eq_none {a : Alerter} {c : Category} {now : Nat}
    (h : a.admits c now = true) {os : List (Outcome Unit)} (he : firstFailure os = none) :
    a.dispatch c now os = (a.markSent c now, .ok true) := by
  simp [dispatch, h, he]

theorem sentAt_markSent (a : Alerter) (c c' : Category) (now : Nat) :
    (a.markSent c now).sentAt c' = if c = c' then some now else a.sentAt c' := by
  unfold markSent sentAt
  by_cases hc : c = c'
  · simp [hc]
  · rw [if_neg hc, List.find?_cons_of_neg (by simpa using hc), List.find?_filter]
    congr 2
    funext e
    by_cases he : e.1 = c' <;> simp [he, Ne.symm hc]

/-- A reply sends its alert exactly when the alerter admits it and no dispatcher fails. -/
theorem reply_result_eq_ok_true_iff (a : Alerter) (x : AlertCall) :
    (a.reply x).2.result = .ok true ↔ a.admits x.category x.time = true ∧ ∀ b ∈ x.failing, b = false := by
  show (a.dispatch x.category x.time (deliver x.failing x.message).1).2 = .ok true ↔ _
  cases ha : a.admits x.category x.time with
  | false => simp [dispatch_of_admits_eq_false ha]
  | true =>
    rcases all_false_or_first_true x.failing with hall | ⟨k, rest, hk⟩
    · rw [List.eq_replicate_iff.mpr ⟨rfl, hall⟩,
        dispatch_of_firstFailure_eq_none ha (deliver_replicate _ _).1]
      simp
    · rw [hk, dispatch_of_firstFailure_eq_some ha (deliver_replicate_append k rest _).1]
      simp

/-- The alerter after a reply: it notes the alert if it went out, and is as it was otherwise. -/
theorem reply_fst (a : Alerter) (x : AlertCall) :
    (a.reply x).1 = if (a.reply x).2.sent then a.markSent x.category x.time else a := by
  show (a.dispatch x.category x.time (deliver x.failing x.message).1).1 =
    if AlertReply.sent ⟨x, (a.dispatch x.category x.time (deliver x.failing x.message).1).2, _⟩
    then _ else _
  cases ha : a.admits x.category x.time with
  | false => simp [dispatch_of_admits_eq_false ha, AlertReply.sent]
  | true =>
    cases he : firstFailure (deliver x.failing x.message).1 with
    | none => simp [dispatch_of_firstFailure_eq_none ha he, AlertReply.sent]
    | some e => simp [dispatch_of_firstFailure_eq_some ha he, AlertReply.sent]

/-- What the dispatchers of a reply delivered: every text when the alert went out, none when
it was held back, and, when a dispatcher failed, the texts of those before it. -/
theorem reply_delivered (a : Alerter) (x : AlertCall) :
    ((a.reply x).2.result = .ok true →
        (a.reply x).2.delivered = (List.range x.failing.length).map fun i => toString i ++ ": " ++ x.message) ∧
      ((a.reply x).2.result = .ok false → (a.reply x).2.delivered = []) ∧
      ∀ e, (a.reply x).2.result = .error e → ∃ k rest, x.failing = List.replicate k false ++ true :: rest ∧
        e = .dispatch ("dispatcher " ++ toString k ++ " down") ∧
        (a.reply x).2.delivered = (List.range k).map fun i => toString i ++ ": " ++ x.message := by
  have hres : (a.reply x).2.result = (a.dispatch x.category x.time (deliver x.failing x.message).1).2 :=
    rfl
  have hdel : (a.reply x).2.delivered =
      if a.admits x.category x.time then (deliver x.failing x.message).2 else [] := rfl
  rw [hres, hdel]
  cases ha : a.admits x.category x.time with
  | false => simp [dispatch_of_admits_eq_false ha]
  | true =>
    -- all dispatchers deliver, or the first failing one stops the alert
    rcases all_false_or_first_true x.failing with hall | ⟨k, rest, hk⟩
    · have hrep := List.eq_replicate_iff.mpr ⟨rfl, hall⟩
      rw [hrep, dispatch_of_firstFailure_eq_none ha (deliver_replicate _ _).1,
        (deliver_replicate _ _).2]
      simp
    · rw [hk, dispatch_of_firstFailure_eq_some ha (deliver_replicate_append k rest _).1,
        (deliver_replicate_append k rest _).2]
      simp

/-- A run of alerts keeps the alerter's settings. -/
theorem answerEach_reply_settings (a : Alerter) (xs : List AlertCall) :
    ∃ l, (answerEach reply a xs).1 = { a with lastSent := l } := by
  induction xs using List.reverseRecOn with
  | nil => exact ⟨a.lastSent, rfl⟩
  | append_singleton xs x ih =>
    obtain ⟨l, hl⟩ := ih
    rw [answerEach_append_singleton, reply_fst, hl]
    split
    · exact ⟨_, rfl⟩
    · exact ⟨l, rfl⟩

/-- After a run, the alerter remembers for each category when the last alert of it that went
out was sent, or what it remembered before the run if none did. -/
theorem sentAt_answerEach (a : Alerter) (xs : List AlertCall) (c : Category) :
    (answerEach reply a xs).1.sentAt c =
      ((((answerEach reply a xs).2.filter fun r => r.sent && r.call.category == c).getLast?).map
        (·.call.time)).or (a.sentAt c) := by
  induction xs using List.reverseRecOn with
  | nil => simp
  | append_singleton xs x ih =>
    rw [answerEach_append_singleton, reply_fst, List.filter_append, List.getLast?_append]
    set b := answerEach reply a xs
    have hcall : (b.1.reply x).2.call = x := rfl
    by_cases hsent : (b.1.reply x).2.sent = true
    · by_cases hc : x.category = c
      · simp [hsent, hc, hcall, sentAt_markSent]
      · simp [hsent, hc, hcall, sentAt_markSent, ih]
    · simp [hsent, ih]

end Alerter

/-- Every reply of a run of alerts from a fresh alerter with `n` dispatchers, frequency `f`
(milliseconds) and alerting `off` or on, at times that never go back: the alert goes out
exactly when alerting is on, some dispatcher exists, none fails, and no earlier alert of its
category went out less than `f` before it. Alerts of other categories, held-back alerts and
failed ones do not count. A sent alert reaches every dispatcher in order, a held-back one none,
and a failed one the dispatchers before the first that fails, whose error it returns. -/
theorem alerts_keep_their_windows (n f : Nat) (off : Bool) (calls : List AlertCall)
    (hmono : calls.Pairwise fun x y => x.time ≤ y.time) {pre post : List AlertReply}
    {y : AlertReply} (h : (answerEach Alerter.reply (⟨n, f, off, []⟩ : Alerter) calls).2 = pre ++ y :: post) :
    (y.result = .ok true ↔ off = false ∧ 0 < n ∧ (∀ b ∈ y.call.failing, b = false) ∧
      ∀ z ∈ pre, z.result = .ok true → z.call.category = y.call.category →
        f ≤ y.call.time - z.call.time) ∧
    (y.result = .ok true →
      y.delivered = (List.range y.call.failing.length).map fun i => toString i ++ ": " ++ y.call.message) ∧
    (y.result = .ok false → y.delivered = []) ∧
    ∀ e, y.result = .error e → ∃ k rest, y.call.failing = List.replicate k false ++ true :: rest ∧
      e = .dispatch ("dispatcher " ++ toString k ++ " down") ∧
      y.delivered = (List.range k).map fun i => toString i ++ ": " ++ y.call.message := by
  obtain ⟨ws, x, zs, rfl, hpre, rfl⟩ := answerEach_eq_append_cons _ h
  obtain ⟨l, hl⟩ := Alerter.answerEach_reply_settings ⟨n, f, off, []⟩ ws
  refine ⟨?_, Alerter.reply_delivered _ x⟩
  -- the earlier alerts went out no later than this one, and in order
  obtain ⟨hsorted, hbefore⟩ := answerEach_ordered Alerter.reply
    (fun _ _ => rfl : ∀ a x, (Alerter.reply a x).2.call = x) _ hmono
  rw [hpre] at hsorted hbefore
  set sentOf := pre.filter fun r => r.sent && r.call.category == x.category
  have hwindow := @window_open_iff _ (fun r : AlertReply => r.call.time) sentOf
    (hsorted.filter _) x.time (fun z hz => hbefore z (List.mem_filter.mp hz).1) f
  -- a fresh alerter remembers nothing but what the run sent
  have hsentAt : (answerEach Alerter.reply ⟨n, f, off, []⟩ ws).1.sentAt x.category =
      sentOf.getLast?.map (·.call.time) := by
    have hfresh : (⟨n, f, off, []⟩ : Alerter).sentAt x.category = none := rfl
    rw [Alerter.sentAt_answerEach, hpre, hfresh, Option.or_none]
  have hcall : ((answerEach Alerter.reply ⟨n, f, off, []⟩ ws).1.reply x).2.call = x := rfl
  rw [hcall, Alerter.reply_result_eq_ok_true_iff, Alerter.admits_eq_true_iff, hsentAt, hl]
  simp only [Option.map_eq_some_iff, forall_exists_index, and_imp]
  constructor
  · rintro ⟨⟨hoff, hn, hwin⟩, hall⟩
    refine ⟨hoff, hn, hall, fun z hz hok hcat => ?_⟩
    refine (hwindow.mp fun r hr => hwin _ r hr rfl) z (List.mem_filter.mpr ⟨hz, ?_⟩)
    simp [(AlertReply.sent_eq_true_iff z).mpr hok, hcat]
  · rintro ⟨hoff, hn, hall, hwin⟩
    refine ⟨⟨hoff, hn, fun s r hr hs => hs ▸ hwindow.mpr (fun z hz => ?_) r hr⟩, hall⟩
    obtain ⟨hz, hp⟩ := List.mem_filter.mp hz
    simp only [Bool.and_eq_true, beq_iff_eq] at hp
    exact hwin z hz ((AlertReply.sent_eq_true_iff z).mp hp.1) hp.2

/-- A memory alert at 0 s and at 1 s, then a disk alert at 1 s, each through one dispatcher
that delivers. -/
def alertBurst : List AlertCall :=
  [⟨.memoryOverload, 0, [false], "mem"⟩, ⟨.memoryOverload, 1000, [false], "mem"⟩,
    ⟨.diskSpaceLow, 1000, [false], "disk"⟩]

/-- With a minute between alerts of a category, the second memory alert of `alertBurst` is
held back by the first, and the disk alert, of another category, goes out. -/
theorem alertBurst_disk_alert_sent :
    alertBurst.Pairwise (fun x y => x.time ≤ y.time) ∧
      (answerEach Alerter.reply (⟨1, 60000, false, []⟩ : Alerter) alertBurst).2 =
        [⟨⟨.memoryOverload, 0, [false], "mem"⟩, .ok true, ["0: mem"]⟩,
          ⟨⟨.memoryOverload, 1000, [false], "mem"⟩, .ok false, []⟩] ++
          ⟨⟨.diskSpaceLow, 1000, [false], "disk"⟩, .ok true, ["0: disk"]⟩ :: [] ∧
      ((.ok true : Outcome Bool) = .ok true ↔ false = false ∧ 0 < 1 ∧ (∀ b ∈ [false], b = false) ∧
        ∀ z ∈ ([⟨⟨.memoryOverload, 0, [false], "mem"⟩, .ok true, ["0: mem"]⟩,
          ⟨⟨.memoryOverload, 1000, [false], "mem"⟩, .ok false, []⟩] : List AlertReply),
          z.result = .ok true → z.call.category = .diskSpaceLow → 60000 ≤ 1000 - z.call.time) := by
  have hmono : alertBurst.Pairwise (fun x y => x.time ≤ y.time) := by decide
  have h : (answerEach Alerter.reply (⟨1, 60000, false, []⟩ : Alerter) alertBurst).2 =
      [⟨⟨.memoryOverload, 0, [false], "mem"⟩, .ok true, ["0: mem"]⟩,
        ⟨⟨.memoryOverload, 1000, [false], "mem"⟩, .ok false, []⟩] ++
        ⟨⟨.diskSpaceLow, 1000, [false], "disk"⟩, .ok true, ["0: disk"]⟩ :: [] := rfl
  exact ⟨hmono, h, (alerts_keep_their_windows 1 60000 false alertBurst hmono h).1⟩

/-! ### Readings over a run -/

/-- A question to the reading cache in a run: when it is asked (milliseconds), and what the
probe answers at that moment: its reading, or a failure. -/
structure MonitorCall where
  time : Nat
  reading : Reading
  failing : Bool

/-- The reply to a question: whether the probe was asked, and the reading or the failure. -/
structure MonitorReply where
  call : MonitorCall
  probed : Bool
  result : Outcome Reading

/-- The reading a reply took from the probe, with its time: when it asked the probe and the
probe answered. -/
def MonitorReply.taken (r : MonitorReply) : Option (Nat × Reading) :=
  if r.probed then
    match r.result with
    | .ok u => some (r.call.time, u)
    | .error _ => none
  else none

theorem MonitorReply.fst_of_taken_eq_some {r : MonitorReply} {e : Nat × Reading}
    (h : r.taken = some e) : e.1 = r.call.time := by
  unfold taken at h
  split at h
  · split at h
    · cases h
      rfl
    · cases h
  · cases h

namespace ReadingCache

/-- Asks the cache at a call's time, the probe set to answer as the call says: the cache and
the probe after, and the reply, which notes whether the probe's count of questions grew. -/
def reply (s : ReadingCache × Probe) (x : MonitorCall) : (ReadingCache × Probe) × MonitorReply :=
  let q : Probe := { s.2 with reading := x.reading, failing := x.failing }
  let r := s.1.read q x.time
  ((r.1, r.2.1), ⟨x, r.2.1.calls != q.calls, r.2.2⟩)

theorem read_of_fresh {c : ReadingCache} {now : Nat} {u : Reading} (h : c.fresh now = some u)
    (p : Probe) : c.read p now = (c, p, .ok u) := by
  simp [read, h]

/-- A stale cache asks the probe and keeps what it reads. -/
theorem read_of_stale {c : ReadingCache} {now : Nat} (h : c.fresh now = none) (p : Probe) :
    c.read p now =
      (if p.failing then c else c.store now p.reading, { p with calls := p.calls + 1 },
        if p.failing then .error Probe.failure else .ok p.reading) := by
  simp only [read, h, Probe.ask]
  cases p.failing <;> rfl

/-- The cache is stale exactly when it holds no reading taken less than its interval ago. -/
theorem fresh_eq_none_iff (c : ReadingCache) (now : Nat) :
    c.fresh now = none ↔ ∀ e, c.cached = some e → c.refreshMs ≤ now - e.1 := by
  unfold fresh
  cases c.cached with
  | none => simp
  | some e => simp

/-- A cache answers only the reading it holds. -/
theorem cached_of_fresh_eq_some {c : ReadingCache} {now : Nat} {u : Reading}
    (h : c.fresh now = some u) : c.cached.map Prod.snd = some u := by
  unfold fresh at h
  cases hc : c.cached with
  | none => rw [hc] at h; cases h
  | some e =>
    rw [hc] at h
    simp only at h
    split at h
    · cases h
      rfl
    · cases h

/-- A cache holding the last reading that replies in time order took, none of them later than
`now`, is stale at `now` exactly when every reading they took is at least its interval old. -/
theorem fresh_lastTaken_eq_none_iff {R now : Nat} {pre : List MonitorReply}
    (hsorted : pre.Pairwise fun z z' => z.call.time ≤ z'.call.time)
    (hbefore : ∀ z ∈ pre, z.call.time ≤ now) :
    ({ refreshMs := R, cached := (pre.filterMap MonitorReply.taken).getLast? } : ReadingCache).fresh
        now = none ↔
      ∀ z ∈ pre, z.taken.isSome → R ≤ now - z.call.time := by
  set taken := pre.filterMap MonitorReply.taken
  have htaken : ∀ e ∈ taken, ∃ z ∈ pre, z.taken = some e ∧ e.1 = z.call.time := fun e he => by
    obtain ⟨z, hz, hze⟩ := List.mem_filterMap.mp he
    exact ⟨z, hz, hze, MonitorReply.fst_of_taken_eq_some hze⟩
  have htakenSorted : taken.Pairwise fun e e' => e.1 ≤ e'.1 := by
    refine List.pairwise_filterMap.mpr (hsorted.imp ?_)
    intro z z' hzz' e he e' he'
    rw [MonitorReply.fst_of_taken_eq_some he, MonitorReply.fst_of_taken_eq_some he']
    exact hzz'
  -- only the last reading taken decides, and it is the newest
  have hwindow := @window_open_iff _ Prod.fst taken htakenSorted now (fun e he => by
    obtain ⟨z, hz, -, he₁⟩ := htaken e he
    rw [he₁]
    exact hbefore z hz) R
  rw [fresh_eq_none_iff]
  simp only
  rw [hwindow]
  constructor
  · intro hall z hz hsome
    obtain ⟨e, he⟩ := Option.isSome_iff_exists.mp hsome
    rw [← MonitorReply.fst_of_taken_eq_some he]
    exact hall e (List.mem_filterMap.mpr ⟨z, hz, he⟩)
  · intro hall e he
    obtain ⟨z, hz, hze, he₁⟩ := htaken e he
    rw [he₁]
    exact hall z hz (by rw [hze]; rfl)

/-- A failing probe leaves the cache as it was. -/
theorem read_fst_of_failing (c : ReadingCache) {p : Probe} (hp : p.failing = true) (now : Nat) :
    (c.read p now).1 = c := by
  cases h : c.fresh now with
  | none => simp [read_of_stale h, hp]
  | some u => rw [read_of_fresh h]

/-- What a reply did: it asked the probe exactly when the cache was stale, answered the cached
reading otherwise, and the cache keeps the reading it took, if any. -/
theorem reply_spec (s : ReadingCache × Probe) (x : MonitorCall) :
    (reply s x).2.call = x ∧ ((reply s x).2.probed = true ↔ s.1.fresh x.time = none) ∧
      (∀ u, s.1.fresh x.time = some u → (reply s x).2.result = .ok u) ∧
      ((reply s x).2.probed = true →
        (reply s x).2.result = if x.failing then .error Probe.failure else .ok x.reading) ∧
      (reply s x).1.1 = { s.1 with cached := ((reply s x).2.taken).or s.1.cached } := by
  refine ⟨rfl, ?_⟩
  cases h : s.1.fresh x.time with
  | some u =>
    simp [reply, read_of_fresh h, MonitorReply.taken]
  | none =>
    cases hf : x.failing <;> simp [reply, read_of_stale h, hf, MonitorReply.taken, store]

/-- After a run, the cache holds the last reading the run took from the probe, or what it held
before the run if it took none. -/
theorem answerEach_reply_cache (s : ReadingCache × Probe) (xs : List MonitorCall) :
    (answerEach reply s xs).1.1 =
      { s.1 with
        cached := (((answerEach reply s xs).2.filterMap MonitorReply.taken).getLast?).or s.1.cached } := by
  induction xs using List.reverseRecOn with
  | nil => simp
  | append_singleton xs x ih =>
    rw [answerEach_append_singleton, (reply_spec _ x).2.2.2.2, ih, List.filterMap_append,
      List.getLast?_append, Option.or_assoc]
    cases hr : (reply (answerEach reply s xs).1 x).2.taken <;> simp [hr]

end ReadingCache

/-- Every reply of a run of questions to a reading cache with refresh interval `R`
(milliseconds), empty at first, at times that never go back: the probe is asked exactly when
no earlier question took a reading from it less than `R` before; a question that does not ask
it gets the reading of the last one that did, and one that asks it gets what it answers. A
failing probe leaves the cache as it was, so a failure never counts as a reading taken; with
`R = 0` every question asks the probe. -/
theorem cache_probes_when_stale (R : Nat) (p : Probe) (calls : List MonitorCall)
    (hmono : calls.Pairwise fun x y => x.time ≤ y.time) {pre post : List MonitorReply}
    {y : MonitorReply}
    (h : (answerEach ReadingCache.reply (({ refreshMs := R } : ReadingCache), p) calls).2 =
      pre ++ y :: post) :
    (y.probed = true ↔ ∀ z ∈ pre, z.taken.isSome → R ≤ y.call.time - z.call.time) ∧
    (y.probed = false →
      ∃ u, (pre.filterMap MonitorReply.taken).getLast?.map Prod.snd = some u ∧ y.result = .ok u) ∧
    (y.probed = true → y.result = if y.call.failing then .error Probe.failure else .ok y.call.reading) ∧
    (R = 0 → y.probed = true) ∧
    ∀ (c : ReadingCache) (q : Probe) (now : Nat), q.failing = true → (c.read q now).1 = c := by
  obtain ⟨ws, x, zs, rfl, hpre, rfl⟩ := answerEach_eq_append_cons _ h
  set s := answerEach ReadingCache.reply (({ refreshMs := R } : ReadingCache), p) ws
  obtain ⟨hcall, hprobed, hcached, hanswer, -⟩ := ReadingCache.reply_spec s.1 x
  -- the earlier questions came no later than this one, and in order
  obtain ⟨hsorted, hbefore⟩ := answerEach_ordered ReadingCache.reply
    (fun _ _ => rfl : ∀ c x, (ReadingCache.reply c x).2.call = x) _ hmono
  rw [hpre] at hsorted hbefore
  -- the cache holds the last reading taken, and keeps its interval
  have hcache : s.1.1 = { refreshMs := R, cached := (pre.filterMap MonitorReply.taken).getLast? } := by
    rw [ReadingCache.answerEach_reply_cache, hpre]
    simp
  have hstale : s.1.1.fresh x.time = none ↔ ∀ z ∈ pre, z.taken.isSome → R ≤ x.time - z.call.time := by
    rw [hcache]
    exact ReadingCache.fresh_lastTaken_eq_none_iff hsorted hbefore
  refine ⟨?_, fun hnot => ?_, hanswer, fun hR => ?_, fun c q now hq => ReadingCache.read_fst_of_failing c hq now⟩
  · rw [hcall, hprobed, hstale]
  · -- not stale: the cache answers the last reading taken
    obtain ⟨u, hu⟩ := Option.ne_none_iff_exists'.mp fun hf =>
      Bool.false_ne_true (hnot.symm.trans (hprobed.mpr hf))
    refine ⟨u, ?_, hcached u hu⟩
    have hlast := ReadingCache.cached_of_fresh_eq_some hu
    rwa [hcache] at hlast
  · rw [hprobed, ReadingCache.fresh_eq_none_iff, hcache, hR]
    exact fun e _ => Nat.zero_le _

/-- Questions at 0 s, 5 s and 11 s; the probe reads 10% memory used, then 20%, then fails. -/
def readingBurst : List MonitorCall :=
  [⟨0, ⟨10.0, none⟩, false⟩, ⟨5000, ⟨20.0, none⟩, false⟩, ⟨11000, ⟨20.0, none⟩, true⟩]

/-- With a refresh interval of 10 s, the second question of `readingBurst` does not ask the
probe and gets the first reading again. -/
theorem readingBurst_second_cached :
    readingBurst.Pairwise (fun x y => x.time ≤ y.time) ∧
      (answerEach ReadingCache.reply (({ refreshMs := 10000 } : ReadingCache),
          ({ reading := Probe.initial } : Probe)) readingBurst).2 =
        [⟨⟨0, ⟨10.0, none⟩, false⟩, true, .ok ⟨10.0, none⟩⟩] ++
          ⟨⟨5000, ⟨20.0, none⟩, false⟩, false, .ok ⟨10.0, none⟩⟩ ::
          [⟨⟨11000, ⟨20.0, none⟩, true⟩, true, .error Probe.failure⟩] ∧
      (false = true ↔ ∀ z ∈ ([⟨⟨0, ⟨10.0, none⟩, false⟩, true, .ok ⟨10.0, none⟩⟩] : List MonitorReply),
        z.taken.isSome → 10000 ≤ 5000 - z.call.time) ∧
      (false = false → ∃ u, (([⟨⟨0, ⟨10.0, none⟩, false⟩, true, .ok ⟨10.0, none⟩⟩] :
          List MonitorReply).filterMap MonitorReply.taken).getLast?.map Prod.snd = some u ∧
        (.ok ⟨10.0, none⟩ : Outcome Reading) = .ok u) := by
  have hmono : readingBurst.Pairwise (fun x y => x.time ≤ y.time) := by decide
  have h : (answerEach ReadingCache.reply (({ refreshMs := 10000 } : ReadingCache),
      ({ reading := Probe.initial } : Probe)) readingBurst).2 =
        [⟨⟨0, ⟨10.0, none⟩, false⟩, true, .ok ⟨10.0, none⟩⟩] ++
          ⟨⟨5000, ⟨20.0, none⟩, false⟩, false, .ok ⟨10.0, none⟩⟩ ::
          [⟨⟨11000, ⟨20.0, none⟩, true⟩, true, .error Probe.failure⟩] := rfl
  have hlaw := cache_probes_when_stale 10000 { reading := Probe.initial } readingBurst hmono h
  exact ⟨hmono, h, hlaw.1, hlaw.2.1⟩

end ScaleControl
