import Mathlib
/-!
# Calls answered one after another

A run answers its calls in turn with a step that takes the state left by the calls before and
gives the next state and the reply (`answerEach`). A run of a list and one more call is the
run of the list and then that call (`answerEach_append_singleton`), so facts about whole runs
follow one call at a time. There is one reply per call, and a reply that names its call names
the calls in order; the reply to any one call is the step's reply from the state the earlier
calls left (`answerEach_eq_append_cons`).
-/
namespace ScaleControl

/-- Answers calls one after another with `step`, from state `s`: the state after them and
the reply to each, in order. -/
def answerEach {σ α β : Type} (step : σ → α → σ × β) (s : σ) (calls : List α) : σ × List β :=
  calls.foldl (fun acc x => ((step acc.1 x).1, acc.2 ++ [(step acc.1 x).2])) (s, [])

section Runs

variable {σ α β : Type} (step : σ → α → σ × β)

/-- A run started with replies already given goes on appending to them. -/
theorem foldl_replies (t : σ) (rs : List β) (ys : List α) :
    ys.foldl (fun acc x => ((step acc.1 x).1, acc.2 ++ [(step acc.1 x).2])) (t, rs) =
      ((answerEach step t ys).1, rs ++ (answerEach step t ys).2) := by
  induction ys generalizing t rs with
  | nil => simp [answerEach]
  | cons y ys ih =>
    simp only [answerEach, List.foldl_cons]
    rw [ih, ih _ ([] ++ _)]
    simp

theorem answerEach_append (s : σ) (xs ys : List α) :
    answerEach step s (xs ++ ys) =
      ((answerEach step (answerEach step s xs).1 ys).1,
        (answerEach step s xs).2 ++ (answerEach step (answerEach step s xs).1 ys).2) := by
  rw [answerEach, List.foldl_append, ← answerEach, foldl_replies]

@[simp] theorem answerEach_nil (s : σ) : answerEach step s [] = (s, []) := rfl

theorem answerEach_append_singleton (s : σ) (xs : List α) (x : α) :
    answerEach step s (xs ++ [x]) =
      ((step (answerEach step s xs).1 x).1,
        (answerEach step s xs).2 ++ [(step (answerEach step s xs).1 x).2]) := by
  rw [answerEach_append]
  rfl

@[simp] theorem length_answerEach (s : σ) (xs : List α) :
    (answerEach step s xs).2.length = xs.length := by
  induction xs using List.reverseRecOn generalizing s with
  | nil => rfl
  | append_singleton xs x ih => simp [answerEach_append_singleton, ih]

/-- Replies that name their call name the calls of the run, in order. -/
theorem map_answerEach {call : β → α} (hcall : ∀ s x, call (step s x).2 = x) (s : σ)
    (xs : List α) : (answerEach step s xs).2.map call = xs := by
  induction xs using List.reverseRecOn with
  | nil => rfl
  | append_singleton xs x ih => simp [answerEach_append_singleton, ih, hcall]

/-- Over calls in time order, the replies before a call answer calls in time order, none of
them later than it. -/
theorem answerEach_ordered {call : β → α} (hcall : ∀ s x, call (step s x).2 = x) {time : α → Nat}
    (s : σ) {ws zs : List α} {x : α} (hmono : (ws ++ x :: zs).Pairwise fun a b => time a ≤ time b) :
    ((answerEach step s ws).2.Pairwise fun z z' => time (call z) ≤ time (call z')) ∧
      ∀ z ∈ (answerEach step s ws).2, time (call z) ≤ time x := by
  have hcalls := map_answerEach step hcall s ws
  have hws := List.pairwise_append.mp hmono
  refine ⟨?_, fun z hz => hws.2.2 (call z) (hcalls ▸ List.mem_map_of_mem hz) x List.mem_cons_self⟩
  rw [← hcalls, List.pairwise_map] at hws
  exact hws.1

/-- Every reply of a run is the step's reply to its call, from the state the earlier calls
left, and the replies before it are those of the earlier calls. -/
theorem answerEach_eq_append_cons {s : σ} {xs : List α} {pre post : List β} {y : β}
    (h : (answerEach step s xs).2 = pre ++ y :: post) :
    ∃ ws x zs, xs = ws ++ x :: zs ∧ (answerEach step s ws).2 = pre ∧
      (step (answerEach step s ws).1 x).2 = y := by
  have hlen : pre.length < xs.length := by
    have := congrArg List.length h
    simp only [length_answerEach, List.length_append, List.length_cons] at this
    omega
  obtain ⟨x, zs, hdrop⟩ : ∃ x zs, xs.drop pre.length = x :: zs := by
    cases hd : xs.drop pre.length with
    | nil => simp at hd; omega
    | cons x zs => exact ⟨x, zs, rfl⟩
  have hsplit : xs = xs.take pre.length ++ x :: zs := by rw [← hdrop, List.take_append_drop]
  refine ⟨xs.take pre.length, x, zs, hsplit, ?_⟩
  -- the replies of the earlier calls are as many as `pre`, so they are `pre`
  have hcons := answerEach_append step (answerEach step s (xs.take pre.length)).1 [x] zs
  rw [List.singleton_append] at hcons
  rw [hsplit, answerEach_append, hcons] at h
  have hpre := List.append_inj h (by simp [Nat.min_eq_left hlen.le])
  refine ⟨hpre.1, ?_⟩
  have hrest := hpre.2
  simp only [answerEach, List.foldl_cons, List.foldl_nil, List.nil_append, List.singleton_append,
    List.cons.injEq] at hrest
  exact hrest.1

end Runs

end ScaleControl
