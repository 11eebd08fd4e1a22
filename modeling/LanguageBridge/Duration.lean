/-!
# Durations and due times

A duration is a whole number of nanoseconds, at most `Duration.longest`.  The clock that timers
run on counts whole milliseconds, so a timer armed at `now` for a duration `d` is due at the
first millisecond that is not earlier than `now + d`.

`le_wholeMillis` and `wholeMillis_lt` say that `wholeMillis d` is exactly that rounding up, and
`wholeMillis_ofMillis` that nothing is lost on a whole number of milliseconds.
-/

namespace LanguageBridge

/-- A length of time in nanoseconds. -/
abbrev Duration := Nat

namespace Duration

/-- Nanoseconds in a second. -/
def second : Nat := 1000000000

/-- Nanoseconds in a millisecond. -/
def milli : Nat := 1000000

/-- The longest duration there is: `2^64` seconds less a nanosecond. -/
def longest : Nat := UInt64.size * second - 1

/-- The duration of `ms` milliseconds. -/
def ofMillis (ms : Nat) : Duration := ms * milli

/-- The duration in milliseconds, rounded up. -/
def wholeMillis (d : Duration) : Nat := (d + (milli - 1)) / milli

/-- The millisecond at which a timer armed at `now` for `d` is due. -/
def dueAt (now : Nat) (d : Duration) : Nat := now + wholeMillis d

theorem le_wholeMillis (d : Nat) : d ≤ wholeMillis d * milli := by
  simp only [wholeMillis, milli]
  omega

theorem wholeMillis_lt (d : Nat) : wholeMillis d * milli < d + milli := by
  simp only [wholeMillis, milli]
  omega

theorem wholeMillis_ofMillis (ms : Nat) : wholeMillis (ofMillis ms) = ms := by
  simp only [wholeMillis, ofMillis, milli]
  omega

theorem dueAt_zero (now : Nat) : dueAt now 0 = now := by
  simp [dueAt, wholeMillis, milli]

end Duration
end LanguageBridge
