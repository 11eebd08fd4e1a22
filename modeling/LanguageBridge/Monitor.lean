import LanguageBridge.Duration

/-!
# Health monitors

A monitor checks something at a fixed interval until it is stopped or the check tells it to break.
The first check comes one full interval after the start, and the `k`-th one `k` intervals after
it, rounded up to a millisecond.  Intervals below a millisecond are raised to it.
-/

namespace LanguageBridge

/-- A monitor: when it started, and how many checks it has made. -/
structure Monitor where
  interval : Duration
  /-- The millisecond of the start; none before the monitor has run for the first time. -/
  start : Option Nat
  checks : Nat
  deriving DecidableEq, Repr

namespace Monitor

/-- The shortest interval of a monitor. -/
def shortest : Duration := Duration.milli

/-- A monitor that has not started yet. -/
def fresh (interval : Duration) : Monitor := ⟨max interval shortest, none, 0⟩

/-- The monitor started at a time. -/
def begin (m : Monitor) (now : Nat) : Monitor := { m with start := some now }

/-- The due time of check number `k` of a monitor started at `start`. -/
def dueAt (m : Monitor) (start k : Nat) : Nat := Duration.dueAt start (k * m.interval)

/-- The due time of the next check. -/
def nextDue (m : Monitor) : Nat := m.dueAt (m.start.getD 0) (m.checks + 1)

/-- The monitor after one more check. -/
def checked (m : Monitor) : Monitor := { m with checks := m.checks + 1 }

end Monitor
end LanguageBridge
