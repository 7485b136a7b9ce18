import ScaleControl.Service
/-!
# Backing off after a change

After a service scales, its next ticks are skipped: as many as the descriptor's limit for
the operation that was carried out. The tick after the last skipped one runs, and the
service is active again. Entering a backoff restarts the count, whatever came before.

The count is a 32-bit word that goes up before it is compared with the limit; going past
its largest value is an arithmetic overflow, which ends the tick with a crash.
-/
namespace ScaleControl

/-- `n + 1`, unless it does not fit in 32 bits. -/
def checkedSucc (n : UInt32) : Option UInt32 :=
  if n.toNat + 1 < UInt32.size then some (n + 1) else none

/-- The backoff of one service: the operation it backs off from, if any, and how many
ticks it has skipped. -/
structure Backoff where
  last : Option Operation := none
  count : UInt32 := 0
  deriving DecidableEq

namespace Backoff

/-- Starts backing off from `op`. -/
def enter (_ : Backoff) (op : Operation) : Backoff := ⟨some op, 0⟩

/-- Whether the service is backing off. -/
def active (b : Backoff) : Bool := b.last.isSome

/-- Decides whether this tick is skipped: while backing off, ticks are skipped up to the
limit of the descriptor for the operation; the next one ends the backoff and runs. `none`
when counting the tick overflows. -/
def shouldSkip (b : Backoff) (d : Descriptor) : Option (Bool × Backoff) :=
  match b.last with
  | none => some (false, b)
  | some op =>
    (checkedSucc b.count).map fun count =>
      if count > d.backoffLimit op then (false, {}) else (true, ⟨some op, count⟩)

end Backoff

end ScaleControl
