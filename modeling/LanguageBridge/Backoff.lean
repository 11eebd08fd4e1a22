import LanguageBridge.Binary64
import LanguageBridge.Duration

/-!
# Backoff delays

The delay before the next attempt grows by half with every attempt, up to ten times the base
delay and never beyond a maximum.  The product is computed on doubles: the base is turned into
seconds, multiplied, and turned back into nanoseconds, each operation rounding to the nearest
value and ties to even.  A product that is no duration counts as the longest one, so the maximum
still bounds it.
-/

namespace LanguageBridge

/-- Growth of the delay between attempts: a first delay and a ceiling. -/
structure Backoff where
  base : Duration
  max : Duration
  deriving DecidableEq, Repr

namespace Duration

/-- A duration in seconds, as a double: whole seconds and the fraction are rounded each on its
own, and then their sum. -/
def toSeconds (d : Duration) : Nat :=
  Binary64.add (Binary64.ofNat (d / second)) (Binary64.nearest (d % second) second)

/-- The duration nearest to a number of seconds, or `none` beyond the longest. -/
def ofSeconds? (units : Nat) : Option Duration :=
  let nanos := divNearestEven (units * second) Binary64.one
  if nanos ≤ longest then some nanos else none

end Duration

namespace Backoff

/-- Attempts beyond this one do not change the multiplier any more. -/
def lastGrowth : Nat := 64

/-- The factor applied to the base delay: `min (1.5 ^ attempt) 10`, in units of a double. -/
def multiplier (attempt : Nat) : Nat :=
  let k := min attempt lastGrowth
  min (Binary64.one * Nat.pow 3 k / Nat.pow 2 k) (10 * Binary64.one)

/-- The delay before the attempt that follows `attempt` failed ones. -/
def delay (b : Backoff) (attempt : Nat) : Duration :=
  let grown := Duration.ofSeconds? (Binary64.mul b.base.toSeconds (multiplier attempt))
  min (grown.getD Duration.longest) b.max

theorem delay_le_max (b : Backoff) (attempt : Nat) : b.delay attempt ≤ b.max :=
  Nat.min_le_right _ _

end Backoff
end LanguageBridge
