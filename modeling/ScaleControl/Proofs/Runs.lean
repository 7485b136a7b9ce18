import Mathlib
import ScaleControl.Scenario.Drive
/-!
# Runs of a program against the world

A run of a program from a world is the list of its exchanges, each request with the reply
it got, up to where the program stands. The world answers a call at once
(`World.perform`), so a run stops only where its program is done or waits. While a program
waits, the other tasks may change the world in any way, and the wait may end with any
reply; a run leaves that open. The driver's runs are runs in this sense
(`World.drive_exec`), so a fact about every run of a program holds of every time the
driver carries it out, whatever the other tasks do meanwhile.

`Prog.Always good p` says that every exchange `p` can make, whatever the replies, satisfies
`good`; every run of `p` then makes only such exchanges (`Exec.always`).
-/
namespace ScaleControl

/-- A request with the reply it got. -/
structure Exchange where
  request : Request
  reply : request.Reply

/-- A request that the world does not answer at once. -/
def Request.Waits (r : Request) : Prop := ∀ c, r ≠ .call c

theorem Request.sleep_waits (token ms : Nat) : (Request.sleep token ms).Waits := fun _ h => by
  cases h

/-- `Exec w p es w' q`: from world `w`, program `p` makes the exchanges `es` and stands at
`q`, in world `w'`. -/
inductive Exec {α : Type} : World → Prog α → List Exchange → World → Prog α → Prop
  | done (w : World) (a : α) : Exec w (.done a) [] w (.done a)
  /-- A call is answered by the world. -/
  | call {w w' : World} {c : Call} {k : c.Reply → Prog α} {es : List Exchange} {q : Prog α} :
      Exec (w.perform c).1 (k (w.perform c).2) es w' q →
      Exec w (.ask (.call c) k) (⟨.call c, (w.perform c).2⟩ :: es) w' q
  /-- The run stops in a wait. -/
  | stop (w : World) {r : Request} (k : r.Reply → Prog α) :
      r.Waits → Exec w (.ask r k) [] w (.ask r k)
  /-- A wait ends with reply `x`, in a world the other tasks may have changed. -/
  | wait {w w₁ w' : World} {r : Request} {k : r.Reply → Prog α} (x : r.Reply)
      {es : List Exchange} {q : Prog α} :
      r.Waits → Exec w₁ (k x) es w' q → Exec w (.ask r k) (⟨r, x⟩ :: es) w' q

namespace Exec

variable {α β : Type} {w w' : World} {es : List Exchange}

theorem done_iff {a : α} {q : Prog α} :
    Exec w (.done a) es w' q ↔ es = [] ∧ w' = w ∧ q = .done a := by
  constructor
  · intro h
    cases h
    exact ⟨rfl, rfl, rfl⟩
  · rintro ⟨rfl, rfl, rfl⟩
    exact .done _ _

theorem call_iff {c : Call} {k : c.Reply → Prog α} {q : Prog α} :
    Exec w (.ask (.call c) k) es w' q ↔
      ∃ es', es = ⟨.call c, (w.perform c).2⟩ :: es' ∧
        Exec (w.perform c).1 (k (w.perform c).2) es' w' q := by
  constructor
  · intro h
    cases h with
    | call h => exact ⟨_, rfl, h⟩
    | stop _ _ hr => exact absurd rfl (hr c)
    | wait _ hr _ => exact absurd rfl (hr c)
  · rintro ⟨es', rfl, h⟩
    exact .call h

theorem wait_iff {r : Request} {k : r.Reply → Prog α} {q : Prog α} (hr : r.Waits) :
    Exec w (.ask r k) es w' q ↔
      (es = [] ∧ w' = w ∧ q = .ask r k) ∨
        ∃ x w₁ es', es = ⟨r, x⟩ :: es' ∧ Exec w₁ (k x) es' w' q := by
  constructor
  · intro h
    cases h with
    | call => exact absurd rfl (hr _)
    | stop => exact .inl ⟨rfl, rfl, rfl⟩
    | wait x _ h => exact .inr ⟨x, _, _, rfl, h⟩
  · rintro (⟨rfl, rfl, rfl⟩ | ⟨x, w₁, es', rfl, h⟩)
    · exact .stop _ k hr
    · exact .wait x hr h

/-- A wait that ends with reply `x` while the world stays as it was. -/
theorem wait_unchanged {r : Request} {k : r.Reply → Prog α} {q : Prog α} (hr : r.Waits)
    (x : r.Reply) (h : Exec w (k x) es w' q) : Exec w (.ask r k) (⟨r, x⟩ :: es) w' q :=
  .wait x hr h

/-- A run of `p.bind f` either stops inside `p`, or runs `p` to its end and `f` from there. -/
theorem of_bind {p : Prog α} {f : α → Prog β} {q : Prog β} (h : Exec w (p.bind f) es w' q) :
    (∃ (r : Request) (k : r.Reply → Prog α),
        Exec w p es w' (.ask r k) ∧ q = .ask r fun x => (k x).bind f) ∨
      ∃ a es₁ es₂ w₁, es = es₁ ++ es₂ ∧ Exec w p es₁ w₁ (.done a) ∧ Exec w₁ (f a) es₂ w' q := by
  induction p generalizing w es with
  | done a => exact .inr ⟨a, [], es, _, rfl, .done _ a, h⟩
  | ask r k ih =>
    cases h with
    | call h =>
      rcases ih _ h with ⟨r', k', hp, rfl⟩ | ⟨a, es₁, es₂, w₁, rfl, hp, hf⟩
      · exact .inl ⟨r', k', .call hp, rfl⟩
      · exact .inr ⟨a, _ :: es₁, es₂, w₁, rfl, .call hp, hf⟩
    | stop _ _ hr => exact .inl ⟨r, k, .stop _ k hr, rfl⟩
    | wait x hr h =>
      rcases ih x h with ⟨r', k', hp, rfl⟩ | ⟨a, es₁, es₂, w₁, rfl, hp, hf⟩
      · exact .inl ⟨r', k', .wait x hr hp, rfl⟩
      · exact .inr ⟨a, _ :: es₁, es₂, w₁, rfl, .wait x hr hp, hf⟩

theorem call_bind_iff {c : Call} {g : c.Reply → Prog β} {q : Prog β} :
    Exec w ((Prog.call c).bind g) es w' q ↔
      ∃ es', es = ⟨.call c, (w.perform c).2⟩ :: es' ∧
        Exec (w.perform c).1 (g (w.perform c).2) es' w' q :=
  call_iff

/-! ### Runs of programs that may fail -/

theorem run_bind_eq {x : Attempt α} {f : α → Attempt β} :
    (x >>= f).run = x.run.bind (ExceptT.bindCont f) := rfl

/-- A run of `x >>= f`: it stops inside `x`; or `x` fails, and so does the whole at once; or
`x` succeeds and `f` goes on from there. -/
theorem of_run_bind {x : Attempt α} {f : α → Attempt β} {q : Prog (Outcome β)}
    (h : Exec w (x >>= f).run es w' q) :
    (∃ (r : Request) (k : r.Reply → Prog (Outcome α)),
        Exec w x.run es w' (.ask r k) ∧ q = .ask r fun y => (k y).bind (ExceptT.bindCont f)) ∨
      (∃ e, Exec w x.run es w' (.done (.error e)) ∧ q = .done (.error e)) ∨
      ∃ a es₁ es₂ w₁, es = es₁ ++ es₂ ∧ Exec w x.run es₁ w₁ (.done (.ok a)) ∧
        Exec w₁ (f a).run es₂ w' q := by
  rcases of_bind h with stopped | ⟨r, es₁, es₂, w₁, rfl, hx, hf⟩
  · exact .inl stopped
  · cases r with
    | error e =>
      -- a failure is passed on without another exchange
      obtain ⟨rfl, rfl, rfl⟩ := done_iff.mp hf
      exact .inr (.inl ⟨e, by rw [List.append_nil]; exact hx, rfl⟩)
    | ok a => exact .inr (.inr ⟨a, es₁, es₂, w₁, rfl, hx, hf⟩)

/-- A run of `x >>= f` is a run of `x`, followed, once `x` has succeeded, by a run of `f`. -/
theorem run_bind_split {x : Attempt α} {f : α → Attempt β} {q : Prog (Outcome β)}
    (h : Exec w (x >>= f).run es w' q) :
    ∃ es₁ es₂ w₁ q₁, es = es₁ ++ es₂ ∧ Exec w x.run es₁ w₁ q₁ ∧
      (es₂ = [] ∨ ∃ a, q₁ = .done (.ok a) ∧ Exec w₁ (f a).run es₂ w' q) := by
  rcases of_run_bind h with ⟨r, k, hx, -⟩ | ⟨e, hx, -⟩ | ⟨a, es₁, es₂, w₁, rfl, hx, hf⟩
  · exact ⟨es, [], w', _, (List.append_nil es).symm, hx, .inl rfl⟩
  · exact ⟨es, [], w', _, (List.append_nil es).symm, hx, .inl rfl⟩
  · exact ⟨es₁, es₂, w₁, _, rfl, hx, .inr ⟨a, rfl, hf⟩⟩

theorem run_lift_call_bind_iff {c : Call} {f : c.Reply → Attempt β} {q : Prog (Outcome β)} :
    Exec w (ExceptT.lift (Prog.call c) >>= f).run es w' q ↔
      ∃ es', es = ⟨.call c, (w.perform c).2⟩ :: es' ∧
        Exec (w.perform c).1 (f (w.perform c).2).run es' w' q :=
  call_iff

theorem run_pure_iff {a : α} {q : Prog (Outcome α)} :
    Exec w (pure a : Attempt α).run es w' q ↔ es = [] ∧ w' = w ∧ q = .done (.ok a) :=
  done_iff

/-- A run of `x` followed only by a `pure` step is a run of `x`. -/
theorem of_run_bind_pure {x : Attempt α} {f : α → Attempt β} {q : Prog (Outcome β)}
    (h : Exec w (x >>= f).run es w' q) (hf : ∀ a, ∃ b, f a = pure b) :
    ∃ w₁ q₁, Exec w x.run es w₁ q₁ := by
  obtain ⟨es₁, es₂, w₁, q₁, rfl, hx, hrest⟩ := run_bind_split h
  -- the `pure` step adds no exchange
  have hnil : es₂ = [] := by
    rcases hrest with rfl | ⟨a, -, hf₂⟩
    · rfl
    · obtain ⟨b, hb⟩ := hf a
      rw [hb] at hf₂
      exact (run_pure_iff.mp hf₂).1
  subst hnil
  rw [List.append_nil]
  exact ⟨w₁, q₁, hx⟩

/-- A run of a program lifted into one that may fail is a run of the program. -/
theorem of_run_lift {p : Prog α} {q : Prog (Outcome α)} (h : Exec w (ExceptT.lift p).run es w' q) :
    ∃ q', Exec w p es w' q' := by
  rcases of_bind h with ⟨r, k, hp, -⟩ | ⟨a, es₁, es₂, w₁, rfl, hp, hf⟩
  · exact ⟨_, hp⟩
  · obtain ⟨rfl, rfl, -⟩ := done_iff.mp hf
    exact ⟨_, by rw [List.append_nil]; exact hp⟩

end Exec

/-! ### Exchanges of every path -/

/-- Every exchange `p` can make, whatever the replies, satisfies `good`. -/
def Prog.Always {α : Type} (good : Exchange → Prop) : Prog α → Prop
  | .done _ => True
  | .ask r k => ∀ x, good ⟨r, x⟩ ∧ (k x).Always good

namespace Prog.Always

variable {α β : Type} {good : Exchange → Prop}

theorem bind {p : Prog α} {f : α → Prog β} (hp : p.Always good)
    (hf : ∀ a, (f a).Always good) : (p.bind f).Always good := by
  induction p with
  | done a => exact hf a
  | ask r k ih => exact fun x => ⟨(hp x).1, ih x (hp x).2⟩

theorem run_bind {x : Attempt α} {f : α → Attempt β} (hx : x.run.Always good)
    (hf : ∀ a, (f a).run.Always good) : (x >>= f).run.Always good :=
  bind hx fun r => by
    cases r with
    | error e => trivial
    | ok a => exact hf a

theorem mono {good' : Exchange → Prop} {p : Prog α} (hp : p.Always good)
    (h : ∀ e, good e → good' e) : p.Always good' := by
  induction p with
  | done a => trivial
  | ask r k ih => exact fun x => ⟨h _ (hp x).1, ih x (hp x).2⟩

theorem bindCont {f : α → Attempt β} (hf : ∀ a, (f a).run.Always good) (r : Outcome α) :
    (ExceptT.bindCont f r).Always good := by
  cases r with
  | error e => trivial
  | ok a => exact hf a

theorem run_lift_request {r : Request} (h : ∀ y, good ⟨r, y⟩) :
    (ExceptT.lift (Prog.request r) : Attempt r.Reply).run.Always good :=
  fun y => ⟨h y, trivial⟩

theorem run_pure (a : α) : (pure a : Attempt α).run.Always good := trivial

theorem run_throw (e : ScaleError) : (throw e : Attempt α).run.Always good := trivial

theorem run_lift_call {c : Call} (h : ∀ y, good ⟨.call c, y⟩) :
    (ExceptT.lift (Prog.call c) : Attempt c.Reply).run.Always good :=
  fun y => ⟨h y, trivial⟩

theorem call {c : Call} (h : ∀ y, good ⟨.call c, y⟩) : (Prog.call c).Always good :=
  fun y => ⟨h y, trivial⟩

end Prog.Always

/-- A run makes only exchanges that its program always makes. -/
theorem Exec.always {α : Type} {good : Exchange → Prop} {w w' : World} {p q : Prog α}
    {es : List Exchange} (h : Exec w p es w' q) (hp : p.Always good) : ∀ e ∈ es, good e := by
  induction h with
  | done => simp
  | call _ ih =>
    intro e he
    rcases List.mem_cons.mp he with rfl | he
    · exact (hp _).1
    · exact ih (hp _).2 e he
  | stop => simp
  | wait x _ _ ih =>
    intro e he
    rcases List.mem_cons.mp he with rfl | he
    · exact (hp x).1
    · exact ih (hp x).2 e he

/-! ### The driver's runs -/

/-- A program the driver carries out to its end has a run from the world it started in to
the world it ended in. -/
theorem World.drive_exec {α : Type} {fuel : Nat} {w w' : World} {p : Prog α} {a : α}
    (h : w.drive fuel p = (w', .value a)) : ∃ es, Exec w p es w' (.done a) := by
  induction fuel generalizing w p with
  | zero => simp [World.drive] at h
  | succ fuel ih =>
    cases p with
    | done b =>
      simp only [World.drive, Prod.mk.injEq, Finish.value.injEq] at h
      obtain ⟨rfl, rfl⟩ := h
      exact ⟨[], .done _ _⟩
    | ask r k =>
      cases r with
      | call c =>
        obtain ⟨es, hes⟩ := ih h
        exact ⟨_, .call hes⟩
      | sleep token ms =>
        have hr : (Request.sleep token ms).Waits := fun _ h => nomatch h
        simp only [World.drive] at h
        split at h
        · obtain ⟨es, hes⟩ := ih h
          exact ⟨_, .wait (r := .sleep token ms) false hr hes⟩
        · split at h
          · obtain ⟨es, hes⟩ := ih h
            exact ⟨_, .wait (r := .sleep token ms) true hr hes⟩
          · split at h
            · obtain ⟨es, hes⟩ := ih h
              exact ⟨_, .wait _ hr hes⟩
            · simp at h
      | pause ms =>
        have hr : (Request.pause ms).Waits := fun _ h => nomatch h
        simp only [World.drive] at h
        split at h
        · obtain ⟨es, hes⟩ := ih h
          exact ⟨_, .wait (r := .pause ms) () hr hes⟩
        · split at h
          · obtain ⟨es, hes⟩ := ih h
            exact ⟨_, .wait (r := .pause ms) () hr hes⟩
          · simp at h
      | join j =>
        have hr : (Request.join j).Waits := fun _ h => nomatch h
        simp only [World.drive] at h
        split at h
        · obtain ⟨es, hes⟩ := ih h
          exact ⟨_, .wait _ hr hes⟩
        · split at h
          · obtain ⟨es, hes⟩ := ih h
            exact ⟨_, .wait _ hr hes⟩
          · simp at h
      | crash message => simp [World.drive] at h

end ScaleControl
