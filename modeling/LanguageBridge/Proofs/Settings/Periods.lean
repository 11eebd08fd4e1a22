import LanguageBridge.Proofs.Monitor.Schedule
import LanguageBridge.Proofs.Retry.Delays
import LanguageBridge.Settings
import Mathlib.Data.Nat.Cast.Order.Field

/-!
# Periods that settings ask for

A client that waits for no time at all would turn an outage into a busy loop, so no settings may
make it do so.  `Settings.never_spins` says that they cannot, whatever numbers they hold: between
two attempts there is at least a millisecond, and at most the maximum of the settings, and so it is
before a forced reconnect and between two checks.

The delay is a product in doubles, and the longest duration would stand in for one that is out of
range.  A base of sixty-four bits of milliseconds is far from that (`Backoff.InRange`), so what
bounds the delay from below is the base and nothing else: the delay never falls with the attempts,
and what the first one loses to rounding is small beside the base, if the base is large, and
nothing, if it is not (`Backoff.milli_le_grown`).

The bounds on the doubles on the way are powers of two with room to spare: `2 ^ 56` for the whole
seconds, `2 ^ 58` for the seconds, `2 ^ 63` for the product, which the tenfold growth cannot pass.
A rounding never carries a number across a power of two that it is below
(`Binary64.value_nearest_lt`).
-/

namespace LanguageBridge

open Binary64 (value ofNat nearest halfUnit)

/-- What is at most a power of two stays below the next one when it is rounded. -/
theorem Binary64.value_nearest_lt {num den k : ℕ} (pos : 0 < den) (le : (num : ℚ) / den ≤ 2 ^ k) :
    value (nearest num den) < 2 ^ (k + 1) := by
  have near := (abs_le.1 (abs_value_nearest_sub_le num pos)).2
  have tiny := halfUnit_le
  have one : (1 : ℚ) ≤ 2 ^ k := one_le_pow₀ one_le_two
  rw [pow_succ]
  linarith

/-! ## Milliseconds -/

namespace Duration

/-- A duration in milliseconds of sixty-four bits. -/
def OfWord (d : Duration) : Prop := ∃ ms < UInt64.size, d = ofMillis ms

/-- Sixty-four bits of milliseconds are a duration. -/
theorem OfWord.le_longest {d : Duration} (word : OfWord d) : d ≤ longest := by
  obtain ⟨ms, lt, rfl⟩ := word
  calc ofMillis ms ≤ UInt64.size * milli := Nat.mul_le_mul_right milli lt.le
    _ ≤ longest := by decide

theorem OfWord.seconds_le {d : Duration} (word : OfWord d) : (d : ℚ) / second ≤ 2 ^ 55 := by
  obtain ⟨ms, lt, rfl⟩ := word
  rw [div_le_iff₀ (Nat.cast_pos.2 second_pos)]
  have le : ofMillis ms ≤ 2 ^ 55 * second :=
    calc ofMillis ms ≤ UInt64.size * milli := Nat.mul_le_mul_right milli lt.le
      _ ≤ 2 ^ 55 * second := by decide
  exact_mod_cast le

theorem le_longest_of_ofSeconds? {units nanos : ℕ} (converted : ofSeconds? units = some nanos) :
    nanos ≤ longest := by
  rw [ofSeconds?_eq] at converted
  split at converted
  · rename_i within
    rwa [← Option.some.inj converted]
  · cases converted

/-- A timer of a millisecond or more is not due at once. -/
theorem lt_dueAt {d : Duration} (long : milli ≤ d) (now : ℕ) : now < dueAt now d := by
  unfold dueAt wholeMillis milli at *
  omega

end Duration

/-! ## Delays -/

namespace Backoff

open Duration

/-- Nothing is out of range while a delay is computed: every double on the way is finite, and what
they come to is a duration. -/
structure InRange (b : Backoff) (attempt : ℕ) : Prop where
  whole : ofNat (b.base / second) < Binary64.overflow
  fraction : nearest (b.base % second) second < Binary64.overflow
  seconds : b.base.toSeconds < Binary64.overflow
  power : Binary64.one * 3 ^ min attempt lastGrowth / 2 ^ min attempt lastGrowth < Binary64.overflow
  product : Binary64.mul b.base.toSeconds (multiplier attempt) < Binary64.overflow
  /-- The longest duration does not stand in. -/
  converted : ∃ nanos ≤ longest,
    ofSeconds? (Binary64.mul b.base.toSeconds (multiplier attempt)) = some nanos ∧
      b.delay attempt = min nanos b.max

/-- The whole seconds stay below `2 ^ 56` when they are rounded. -/
theorem value_whole_lt {d : Duration} (word : OfWord d) : value (ofNat (d / second)) < 2 ^ 56 := by
  refine Binary64.value_nearest_lt Nat.one_pos (k := 55) ?_
  rw [Nat.cast_one, div_one]
  exact le_trans Nat.cast_div_le word.seconds_le

/-- The rest stays below two seconds, whatever its rounding does. -/
theorem value_fraction_lt (d : Duration) : value (nearest (d % second) second) < 2 ^ 1 := by
  refine Binary64.value_nearest_lt second_pos (k := 0) ?_
  rw [pow_zero]
  exact div_le_one_of_le₀ (Nat.cast_le.2 (Nat.mod_lt d second_pos).le) (Nat.cast_nonneg _)

theorem value_toSeconds_lt {d : Duration} (word : OfWord d) : value d.toSeconds < 2 ^ 58 := by
  refine Binary64.value_nearest_lt Binary64.one_pos (k := 57) ?_
  rw [← value, Binary64.value_add]
  linarith [value_whole_lt word, value_fraction_lt d]

/-- The product with the growth stays below `2 ^ 63`. -/
theorem value_product_lt {b : Backoff} (word : OfWord b.base) (attempt : ℕ) :
    value (b.grown attempt) < 2 ^ 63 := by
  refine Binary64.value_nearest_lt (Nat.mul_pos Binary64.one_pos Binary64.one_pos) (k := 62) ?_
  rw [Binary64.value_mul_div, value_multiplier]
  calc value b.base.toSeconds * min ((3 / 2) ^ attempt) 10
      ≤ 2 ^ 58 * 10 := mul_le_mul (value_toSeconds_lt word).le (min_le_right _ _)
        (factor_nonneg attempt) (by norm_num)
    _ ≤ 2 ^ 62 := by norm_num

/-- The power is not yet cut off at ten, but it does not go on for ever. -/
theorem power_lt_overflow (attempt : ℕ) :
    Binary64.one * 3 ^ min attempt lastGrowth / 2 ^ min attempt lastGrowth < Binary64.overflow := by
  have pos := Binary64.one_pos
  refine Binary64.lt_overflow (by norm_num : 102 ≤ 1024) ?_
  rw [value, div_lt_iff₀ (Nat.cast_pos.2 pos)]
  have below : Binary64.one * 3 ^ min attempt lastGrowth / 2 ^ min attempt lastGrowth
      < 2 ^ 102 * Binary64.one := by
    calc Binary64.one * 3 ^ min attempt lastGrowth / 2 ^ min attempt lastGrowth
        ≤ Binary64.one * 3 ^ min attempt lastGrowth := Nat.div_le_self _ _
      _ ≤ Binary64.one * 3 ^ lastGrowth :=
          Nat.mul_le_mul_left _ (Nat.pow_le_pow_right (by decide) (min_le_right _ _))
      _ < Binary64.one * 2 ^ 102 := Nat.mul_lt_mul_of_pos_left (by decide) pos
      _ = 2 ^ 102 * Binary64.one := Nat.mul_comm _ _
  exact_mod_cast below

/-- The product is converted to a duration. -/
theorem ofSeconds?_grown_of_word {b : Backoff} (word : OfWord b.base) (attempt : ℕ) :
    ∃ nanos, ofSeconds? (b.grown attempt) = some nanos ∧
      RoundsToWhole (value (b.grown attempt) * second) nanos :=
  ofSeconds?_of_lt (Binary64.roundsTo_mul _ _).double
    ((value_product_lt word attempt).trans (by norm_num))

/-- So the delay is computed without anything going out of range, for every attempt. -/
theorem inRange {b : Backoff} (word : OfWord b.base) (attempt : ℕ) : b.InRange attempt where
  whole := Binary64.lt_overflow (by norm_num) (value_whole_lt word)
  fraction := Binary64.lt_overflow (by norm_num) (value_fraction_lt b.base)
  seconds := Binary64.lt_overflow (by norm_num) (value_toSeconds_lt word)
  power := power_lt_overflow attempt
  product := Binary64.lt_overflow (by norm_num) (value_product_lt word attempt)
  converted := by
    obtain ⟨nanos, converted, -⟩ := ofSeconds?_grown_of_word word attempt
    exact ⟨nanos, le_longest_of_ofSeconds? converted, converted,
      by rw [delay_eq, converted, Option.getD_some]⟩

/-- A base of a millisecond or more is not lost to rounding. -/
theorem milli_le_grown {b : Backoff} (word : OfWord b.base) (long : milli ≤ b.base) (attempt : ℕ) :
    milli ≤ (ofSeconds? (b.grown attempt)).getD longest := by
  suffices first : milli ≤ (ofSeconds? (b.grown 0)).getD longest from
    first.trans (ofSeconds?_getD_mono (Binary64.mul_mono_right _ (multiplier_mono attempt.zero_le)))
  rcases le_total b.base (86400 * second) with day | beyond
  · have exact : ((b.base : ℕ) : ℚ) = b.base * min ((3 / 2) ^ 0) 10 := by norm_num
    rwa [b.ofSeconds?_grown 0 b.base day exact]
  · obtain ⟨nanos, converted, rounds⟩ := ofSeconds?_grown_of_word word 0
    rw [converted, Option.getD_some]
    have second_pos : (0 : ℚ) < second := Nat.cast_pos.2 second_pos
    have near := (abs_le.1 (b.abs_value_grown_sub_le 0)).1
    rw [pow_zero, min_eq_left (by norm_num), mul_one] at near
    have tiny := Binary64.halfUnit_le
    have large : (86400 : ℚ) ≤ b.base / second := by
      rw [le_div_iff₀ second_pos]
      exact_mod_cast beyond
    -- Of a day or more, a second is left in any case.
    have left : 1 ≤ value (b.grown 0) := by linarith
    refine (by decide : milli ≤ second).trans (rounds.ge_of_ge ?_)
    exact le_mul_of_one_le_left second_pos.le left

/-- A base of a millisecond makes for delays of at least that. -/
theorem milli_le_delay {b : Backoff} (word : OfWord b.base) (long : milli ≤ b.base)
    (le : b.base ≤ b.max) (attempt : ℕ) : milli ≤ b.delay attempt := by
  rw [delay_eq]
  exact le_min (milli_le_grown word long attempt) (long.trans le)

end Backoff

/-! ## Settings -/

namespace Settings

open Duration (milli OfWord)

/-- Every setting in milliseconds is a number of sixty-four bits. -/
theorem ofWord_atLeastOne (ms : UInt64) : OfWord (.ofMillis (atLeastOne ms)) :=
  ⟨_, max_lt ms.toNat_lt (by decide), rfl⟩

theorem milli_le_atLeastOne (ms : UInt64) : milli ≤ Duration.ofMillis (atLeastOne ms) :=
  Nat.le_mul_of_pos_left milli (Nat.le_max_right ms.toNat 1)

/-- The times that a client with some settings waits for. -/
def times (s : Settings) : List Duration :=
  [s.options.baseDelay, s.options.maxDelay, s.options.forcedDelay, s.options.healthInterval,
    s.options.handshakeTimeout, s.options.requestTimeout]

theorem ofWord_of_mem_times {s : Settings} : ∀ d ∈ s.times, OfWord d := by
  have word (ms : UInt64) : OfWord (.ofMillis ms.toNat) := ⟨_, ms.toNat_lt, rfl⟩
  have longest : OfWord s.options.maxDelay :=
    ⟨_, max_lt s.reconnect.maxDelayMs.toNat_lt (max_lt s.reconnect.baseDelayMs.toNat_lt (by decide)), rfl⟩
  simp only [times, List.forall_mem_cons]
  exact ⟨ofWord_atLeastOne _, longest, ofWord_atLeastOne _, ofWord_atLeastOne _, word _, word _, nofun⟩

/-- The delay before an attempt is at least a millisecond. -/
theorem milli_le_delay (s : Settings) (attempt : ℕ) : milli ≤ s.options.backoff.delay attempt :=
  Backoff.milli_le_delay (ofWord_atLeastOne _) (milli_le_atLeastOne _)
    (Nat.mul_le_mul_right milli (le_max_right _ _)) attempt

/-- What a client with some settings waits for after some failed attempts. -/
structure Unhurried (s : Settings) (attempt : ℕ) : Prop where
  delay_ge : milli ≤ s.options.backoff.delay attempt
  /-- The maximum of the settings bounds the delay, unless the base of the settings is greater. -/
  delay_le : s.options.backoff.delay attempt ≤ Duration.ofMillis
    (max s.reconnect.maxDelayMs.toNat (max s.reconnect.baseDelayMs.toNat 1))
  forced_ge : milli ≤ s.options.forcedDelay
  health_ge : milli ≤ s.options.healthInterval
  /-- No timer that a client arms in order to reconnect is due at once. -/
  later : ∀ now, now < Duration.dueAt now (s.options.backoff.delay attempt) ∧
    now < Duration.dueAt now s.options.forcedDelay
  /-- A monitor checks as often as the settings say, and never twice at a time. -/
  checks : ∀ start k, (Monitor.fresh s.options.healthInterval).interval = s.options.healthInterval ∧
    (Monitor.fresh s.options.healthInterval).dueAt start k
      < (Monitor.fresh s.options.healthInterval).dueAt start (k + 1)
  /-- All milliseconds of the settings are durations. -/
  durations : ∀ d ∈ s.times, d ≤ Duration.longest
  inRange : s.options.backoff.InRange attempt

/-- Whatever the settings hold, a client with these settings never waits for nothing, and nothing
that is computed for it is out of range. -/
theorem never_spins (s : Settings) (attempt : ℕ) : s.Unhurried attempt where
  delay_ge := milli_le_delay s attempt
  delay_le := s.options.backoff.delay_le_max attempt
  forced_ge := milli_le_atLeastOne _
  health_ge := milli_le_atLeastOne _
  later := fun now =>
    ⟨Duration.lt_dueAt (milli_le_delay s attempt) now, Duration.lt_dueAt (milli_le_atLeastOne _) now⟩
  checks := fun start k => ⟨max_eq_left (milli_le_atLeastOne _),
    Monitor.dueAt_strictMono (Monitor.shortest_le_interval _) start (Nat.lt_succ_self k)⟩
  durations := fun d mem => (ofWord_of_mem_times d mem).le_longest
  inRange := Backoff.inRange (ofWord_atLeastOne _) attempt

end Settings
end LanguageBridge
