import ScaleControl.Settings
/-!
# Waiting for a scale-up

After a scale-up the controller polls the instance counts, sleeping before each poll: the
first delay is the initial one, each next one doubles (saturating at the longest duration),
and none exceeds the largest delay.
A round has as many polls as the policy's attempts. After a scale-down it sleeps the settle
delay once before reading the counts again. Delays are in milliseconds.
-/
namespace ScaleControl

/-- How a controller waits after scaling. -/
structure Convergence where
  attempts : Nat
  initialMs : Nat
  maxMs : Nat
  settleMs : Nat
  maxCapacityRequests : Nat

/-- The policy of the settings. -/
def ConvergenceSettings.policy (c : ConvergenceSettings) : Convergence :=
  ⟨c.attempts.toNat, c.initialDelayMs.toNat, c.maxDelayMs.toNat, c.settleDelayMs.toNat,
    c.maxCapacityRequests.toNat⟩

namespace Convergence

/-- The first delay of a round. -/
def firstDelay (c : Convergence) : Nat := min c.initialMs c.maxMs

/-- The longest duration, in whole milliseconds: `2^64 - 1` seconds and 999 milliseconds. -/
def maxDurationMs : Nat := (Nat.pow 2 64 - 1) * 1000 + 999

/-- A delay doubled, saturating at the longest duration. -/
def doubled (d : Nat) : Nat := min (2 * d) maxDurationMs

/-- The delay after `d`: doubled, but at most the largest delay. -/
def nextDelay (c : Convergence) (d : Nat) : Nat := min (doubled d) c.maxMs

/-- The first `n` delays, starting at `d`. -/
def delaysFrom (c : Convergence) (d : Nat) : Nat → List Nat
  | 0 => []
  | n + 1 => d :: c.delaysFrom (c.nextDelay d) n

/-- The first `n` delays of a round (fewer if the round is shorter). -/
def firstDelays (c : Convergence) (n : Nat) : List Nat :=
  c.delaysFrom c.firstDelay (min n c.attempts)

end Convergence

end ScaleControl
