import Mathlib
import ScaleControl.Window
import ScaleControl.Proofs.Answering
/-!
# Rolling windows over a run of pushes

A run pushes samples into a window one after another (`Window.pushEach`, a run in the sense of
`answerEach`), each push answering what it evicted. A window made with capacity `c` keeps
`p = max c 1` samples: after `n` pushes it holds the latest `min n p` of them, in the order
they were pushed; the first `p` pushes evict nothing, and every later push evicts the sample
pushed `p` pushes before it (`window_keeps_latest`).

The window after any pushes is the closed form `Window.latest` that the queue analyser's
windows are described by, so the run is followed one push at a time: a push into the latest
of `l` gives the latest of `l` and the sample (`Window.push_latest`), and evicts the sample `p`
places from the end of `l` once `l` has `p` of them (`Window.push_latest_fst`).
-/
namespace ScaleControl.Window

variable {α : Type}

/-- The window keeping `p` samples that holds the latest of `l`. -/
def latest (p : Nat) (l : List α) : Window α := ⟨p, l.drop (l.length - p)⟩

/-- Pushing a sample into the window of the latest of `l` gives the window of the latest of
`l` and the sample. -/
theorem push_latest {p : Nat} (hp : 0 < p) (l : List α) (x : α) :
    ((latest p l).push x).2 = latest p (l ++ [x]) := by
  unfold latest push
  simp only [List.length_drop, List.length_append, List.length_singleton]
  by_cases hn : l.length < p
  · -- the window is not full: nothing is evicted
    have h₀ : l.length - p = 0 := by omega
    have h₁ : l.length + 1 - p = 0 := by omega
    simp [h₀, h₁, show l.length ≠ p by omega]
  · -- the window is full: the oldest sample goes
    have hfull : l.length - (l.length - p) = p := by omega
    rw [if_pos hfull, show l.length + 1 - p = (l.length - p) + 1 by omega,
      ← List.drop_drop, List.drop_append_of_le_length (Nat.sub_le _ _)]
    cases htail : l.drop (l.length - p) with
    | nil =>
      have hlen := congrArg List.length htail
      simp only [List.length_drop, List.length_nil] at hlen
      omega
    | cons y ys => rfl

/-- One push as a step of a run: the window after it, and what it evicted. -/
def pushStep (w : Window α) (x : α) : Window α × Option α := ((w.push x).2, (w.push x).1)

/-- Pushes the samples into `w` in turn: the window after them, and what each push evicted. -/
def pushEach (w : Window α) (xs : List α) : Window α × List (Option α) := answerEach pushStep w xs

theorem empty_eq_latest (c : Nat) : (empty c : Window α) = latest (max c 1) [] := by
  simp [empty, latest]

/-- A push into the window of the latest of `l` evicts nothing while fewer than `p` samples
were pushed, and then the sample pushed `p` places before the new one. -/
theorem push_latest_fst {p : Nat} (hp : 0 < p) (l : List α) (x : α) :
    ((latest p l).push x).1 = if p ≤ l.length then l[l.length - p]? else none := by
  unfold latest push
  simp only [List.length_drop]
  by_cases hfull : p ≤ l.length
  · -- the window is full: its oldest sample goes
    rw [if_pos (by omega), if_pos hfull]
    have hhead : (l.drop (l.length - p)).head? = l[l.length - p]? := by
      rw [List.head?_drop]
    cases hd : l.drop (l.length - p) with
    | nil =>
      have hlen := congrArg List.length hd
      simp only [List.length_drop, List.length_nil] at hlen
      omega
    | cons y ys =>
      rw [hd, List.head?_cons] at hhead
      exact hhead
  · rw [if_neg (by omega), if_neg hfull]

/-- Pushed any samples, the window of the latest of `l` becomes the window of the latest of
`l` and the samples. -/
theorem pushEach_latest_fst {p : Nat} (hp : 0 < p) (l xs : List α) :
    ((latest p l).pushEach xs).1 = latest p (l ++ xs) := by
  induction xs using List.reverseRecOn with
  | nil => simp [pushEach]
  | append_singleton xs x ih =>
    rw [pushEach, answerEach_append_singleton, ← pushEach, ih]
    simp [pushStep, push_latest hp]

/-- What the pushes into an empty window evict: nothing for the first `p` of them, then the
samples from the first on, each `p` pushes after it was pushed. -/
theorem pushEach_empty_snd (c : Nat) (xs : List α) :
    ((empty c : Window α).pushEach xs).2 =
      List.replicate (min xs.length (max c 1)) none ++
        (xs.take (xs.length - max c 1)).map some := by
  have hp : 0 < max c 1 := by omega
  induction xs using List.reverseRecOn with
  | nil => simp [pushEach]
  | append_singleton xs x ih =>
    rw [pushEach, answerEach_append_singleton, ← pushEach, ih, empty_eq_latest,
      pushEach_latest_fst hp, List.nil_append]
    simp only [pushStep, push_latest_fst hp, List.length_append, List.length_singleton]
    by_cases hfull : max c 1 ≤ xs.length
    · -- a full window: the push evicts the sample `p` places back
      have hlt : xs.length - max c 1 < xs.length := by omega
      rw [if_pos hfull, List.getElem?_eq_getElem hlt,
        show min (xs.length + 1) (max c 1) = min xs.length (max c 1) by omega,
        show xs.length + 1 - max c 1 = xs.length - max c 1 + 1 by omega,
        List.take_append_of_le_length (by omega), List.take_add_one, List.getElem?_eq_getElem hlt]
      simp only [Option.toList_some, List.map_append, List.map_singleton, List.append_assoc]
    · -- the window is still filling: nothing is evicted
      rw [if_neg hfull, show xs.length + 1 - max c 1 = 0 by omega,
        show xs.length - max c 1 = 0 by omega,
        show min (xs.length + 1) (max c 1) = min xs.length (max c 1) + 1 by omega,
        List.replicate_succ']
      simp

/-- A window made with capacity `c` keeps `max c 1` samples. Pushed the samples `xs` in turn,
it holds the latest `min n (max c 1)` of them, in push order, never more than its capacity;
the first `max c 1` pushes evict nothing, and each later push evicts the sample pushed
`max c 1` pushes before it. -/
theorem window_keeps_latest (c : Nat) (xs : List α) :
    let run := (empty c : Window α).pushEach xs
    run.1.capacity = max c 1 ∧
      run.1.items = xs.drop (xs.length - max c 1) ∧
      run.1.length = min xs.length (max c 1) ∧
      run.1.length ≤ run.1.capacity ∧
      run.2 = List.replicate (min xs.length (max c 1)) none ++
        (xs.take (xs.length - max c 1)).map some := by
  intro run
  have hp : 0 < max c 1 := by omega
  have hwindow : run.1 = latest (max c 1) xs := by
    rw [show run = (latest (max c 1) [] : Window α).pushEach xs by rw [← empty_eq_latest],
      pushEach_latest_fst hp, List.nil_append]
  have hlength : run.1.length = min xs.length (max c 1) := by
    simp only [hwindow, latest, length, List.length_drop]
    omega
  refine ⟨by rw [hwindow]; rfl, by rw [hwindow]; rfl, hlength, ?_, pushEach_empty_snd c xs⟩
  rw [hlength, hwindow]
  exact Nat.min_le_right _ _

example : ((empty 3 : Window Nat).pushEach [1, 2, 3, 4]).2 = [none, none, none, some 1] := by
  decide

end ScaleControl.Window
