import LanguageBridge.Rehearsal.Monitor
import Mathlib.Data.List.Induction
import Mathlib.Order.Monotone.Basic

/-!
# Checks on schedule

A monitor makes its checks at the due times of its interval, and at no others.  `Monitor.dueAt`
gives each check a millisecond of its own, as the interval is a millisecond at least.

`MonitorStage.checks_on_schedule` says of every interval, of every check, whether it breaks or not,
and of all advances of the clock and stops: up to the first break or stop there is one check at each
due time that the clock has reached, and nothing after it.  Only the time up to the stop counts, and
not how the clock got there.  What carries this from one move to the next is `MonitorStage.Kept`.

## The invariant

`Kept d breakAt past life clock n s` says of a stage that it has made `n` checks, at the due times
up to `life`, and where its timer is.  Two clocks are kept apart: `clock` is where the agenda
stands, `life` what of it counts, and they part when the monitor is stopped.  The ticks of a stage
are those of its last move, so the times of earlier moves are carried along in `past`.

An advance is many checks in a row, each of which sets the timer for the next (`Kept.check`), up to
one that is due after the target (`Kept.pass`).  The induction is on the number of due times that
are still to come.
-/

namespace LanguageBridge

/-! ## Due times

A check is due a whole number of intervals after the start, rounded up to the clock.  The interval
is at least a millisecond, so no two checks fall together. -/

/-- With an interval of a millisecond or more no two checks round up to the same millisecond. -/
theorem Duration.wholeMillis_lt_add (d : ℕ) {i : ℕ} (long : milli ≤ i) :
    wholeMillis d < wholeMillis (d + i) := by
  simp only [wholeMillis, milli] at *
  omega

namespace Monitor

theorem shortest_le_interval (d : Duration) : shortest ≤ (fresh d).interval := le_max_right _ _

/-- An interval of a millisecond or more takes each check to a millisecond of its own. -/
theorem dueAt_strictMono {m : Monitor} (long : shortest ≤ m.interval) (start : ℕ) :
    StrictMono (m.dueAt start) := by
  refine strictMono_nat_of_lt_succ fun k => Nat.add_lt_add_left ?_ start
  rw [Nat.succ_mul]
  exact Duration.wholeMillis_lt_add _ long

end Monitor

namespace Rehearsal

/-! ## Time

Of the moves only the time that passes in them counts, up to the first stop. -/

namespace MonitorStep

/-- The time that passes in some moves. -/
def elapsed : List MonitorStep → ℕ
  | [] => 0
  | .advance ms :: rest => ms + elapsed rest
  | .stop :: rest => elapsed rest

/-- The time that passes in some moves before the first stop. -/
def lifetime : List MonitorStep → ℕ
  | [] => 0
  | .advance ms :: rest => ms + lifetime rest
  | .stop :: _ => 0

theorem elapsed_concat (moves : List MonitorStep) (m : MonitorStep) :
    elapsed (moves ++ [m]) = elapsed moves + elapsed [m] := by
  induction moves with
  | nil => exact (Nat.zero_add _).symm
  | cons first rest ih =>
      cases first with
      | advance ms => exact (congrArg (ms + ·) ih).trans (Nat.add_assoc ms _ _).symm
      | stop => exact ih

theorem lifetime_concat_of_mem {moves : List MonitorStep} (stopped : .stop ∈ moves)
    (m : MonitorStep) : lifetime (moves ++ [m]) = lifetime moves := by
  induction moves with
  | nil => cases stopped
  | cons first rest ih =>
      cases first with
      | advance ms => exact congrArg (ms + ·) (ih (by simpa using stopped))
      | stop => rfl

theorem lifetime_concat_of_notMem {moves : List MonitorStep} (alive : .stop ∉ moves)
    (m : MonitorStep) : lifetime (moves ++ [m]) = lifetime moves + elapsed [m] := by
  induction moves with
  | nil => cases m <;> exact (Nat.zero_add _).symm
  | cons first rest ih =>
      cases first with
      | advance ms =>
          have rest := ih fun mem => alive (List.mem_cons_of_mem _ mem)
          exact (congrArg (ms + ·) rest).trans (Nat.add_assoc ms _ _).symm
      | stop => exact absurd List.mem_cons_self alive

end MonitorStep

namespace MonitorStage

open MonitorStep (elapsed lifetime)

/-! ## Running the stage

What one turn of the monitor does, and how far the clock goes before it. -/

section Running

variable {s : MonitorStage}

theorem settle_of_idle (idle : s.agenda.ready = []) (fuel : ℕ) : Scheduled.settle fuel s = s := by
  cases fuel with
  | zero => rfl
  | succ fuel =>
      have none : Scheduled.step? s = none := by
        have idle : (Scheduled.agenda s).ready = [] := idle
        rw [Scheduled.step?, idle]
      rw [Scheduled.settle, none]

/-- A monitor that has become ready runs once. -/
theorem settle_of_ready (ready : s.agenda.ready = [()])
    (idle : (poll () { s with agenda := { s.agenda with ready := [] } }).agenda.ready = []) :
    Scheduled.settle Scheduled.patience s
      = poll () { s with agenda := { s.agenda with ready := [] } } := by
  have step : Scheduled.step? s = some (poll () { s with agenda := { s.agenda with ready := [] } }) := by
    have ready : (Scheduled.agenda s).ready = [()] := ready
    rw [Scheduled.step?, ready]
    rfl
  have patient : Scheduled.patience = 999999 + 1 := rfl
  rw [patient, Scheduled.settle, step]
  exact settle_of_idle idle _

/-- A timer that is due after the target does not count. -/
theorem nextDue?_of_lt {target due : ℕ} (timers : s.agenda.timers = [⟨due, ()⟩])
    (before : target < due) : s.agenda.nextDue? target = none := by
  simp [Agenda.nextDue?, timers, before]

/-- Without a timer the clock just goes on. -/
theorem advance_of_none {target : ℕ} (none : s.agenda.nextDue? target = none) (fuel : ℕ) :
    Scheduled.advance target (fuel + 1) s = { s with agenda := { s.agenda with now := target } } := by
  have none : (Scheduled.agenda s).nextDue? target = .none := none
  rw [Scheduled.advance, none]
  rfl

/-- At the first due time the clock stops for the monitor to run. -/
theorem advance_of_due {target due : ℕ} (timers : s.agenda.timers = [⟨due, ()⟩])
    (idle : s.agenda.ready = []) (ahead : s.agenda.now ≤ due) (reached : due ≤ target)
    (idle' : (poll () { s with agenda := ⟨due, [], []⟩ }).agenda.ready = []) (fuel : ℕ) :
    Scheduled.advance target (fuel + 1) s
      = Scheduled.advance target fuel (poll () { s with agenda := ⟨due, [], []⟩ }) := by
  have next : (Scheduled.agenda s).nextDue? target = some due := by
    show s.agenda.nextDue? target = some due
    simp [Agenda.nextDue?, timers, reached, ahead]
  have woken : s.agenda.reach due = ⟨due, [()], []⟩ := by
    simp [Agenda.reach, timers, Agenda.wake, idle]
  have ran : Scheduled.settle Scheduled.patience (Scheduled.withAgenda s (s.agenda.reach due))
      = poll () { s with agenda := ⟨due, [], []⟩ } := by
    rw [woken]
    exact settle_of_ready (s := { s with agenda := ⟨due, [()], []⟩ }) rfl idle'
  rw [Scheduled.advance, next]
  exact congrArg _ ran

end Running

/-! ## What is kept

The invariant of a stage: how many checks have been made, and that the next one is armed for its
time.  It does not mention how the time was divided into moves. -/

/-- The due time of a check. -/
def due (d : Duration) (k : ℕ) : ℕ := Duration.dueAt 0 (k * max d Duration.milli)

theorem due_strictMono (d : Duration) : StrictMono (due d) :=
  Monitor.dueAt_strictMono (Monitor.shortest_le_interval d) 0

theorem due_zero (d : Duration) : due d 0 = 0 := by
  rw [due, Nat.zero_mul, Duration.dueAt_zero]

theorem nextDue_eq (d : Duration) (n : ℕ) :
    (Monitor.mk (max d Duration.milli) (some 0) n).nextDue = due d (n + 1) := rfl

/-- The check with this number is the one that breaks. -/
def Breaks (breakAt : Option ℕ) (k : ℕ) : Prop := 1 ≤ k ∧ breakAt = some k

/-- A monitor that has been left alone for the time `life`, on a clock that shows `clock`, has made
`n` checks: those of which it has the times on record, and those in the past. -/
structure Kept (d : Duration) (breakAt : Option ℕ) (past : List ℕ) (life clock n : ℕ)
    (s : MonitorStage) : Prop where
  monitor : s.monitor = ⟨max d Duration.milli, some 0, n⟩
  breaking : s.breakAt = breakAt
  idle : s.agenda.ready = []
  now : s.agenda.now = clock
  timers : s.agenda.timers = if s.fate = .running then [⟨due d (n + 1), ()⟩] else []
  log : past ++ s.ticks = (List.range' 1 n).map (due d)
  reached : due d n ≤ life
  /-- The check that comes next is still ahead, if there is a next one. -/
  next : ¬Breaks breakAt n → life < due d (n + 1)
  unbroken : ∀ b, Breaks breakAt b → n ≤ b
  alive : s.fate ≠ .stopped → life = clock ∧ (s.fate = .broken ↔ Breaks breakAt n)

namespace Kept

variable {d : Duration} {breakAt : Option ℕ} {past : List ℕ} {life clock n : ℕ} {s : MonitorStage}

/-- The monitor of a running stage makes its next check. -/
theorem check (kept : Kept d breakAt past life clock n s) (running : s.fate = .running) :
    Kept d breakAt past (due d (n + 1)) (due d (n + 1)) (n + 1)
        (poll () { s with agenda := ⟨due d (n + 1), [], []⟩ }) ∧
      (poll () { s with agenda := ⟨due d (n + 1), [], []⟩ }).fate ≠ .stopped := by
  have polled : poll () { s with agenda := ⟨due d (n + 1), [], []⟩ } =
      if breakAt = some (n + 1) then
        ⟨⟨due d (n + 1), [], []⟩, ⟨max d Duration.milli, some 0, n + 1⟩, breakAt, .broken,
          s.ticks ++ [due d (n + 1)]⟩
      else
        ⟨⟨due d (n + 1), [], [⟨due d (n + 2), ()⟩]⟩, ⟨max d Duration.milli, some 0, n + 1⟩, breakAt,
          .running, s.ticks ++ [due d (n + 1)]⟩ := by
    have later := nextDue_eq d (n + 1)
    simp only [poll, running, kept.monitor, kept.breaking, rest, Monitor.checked, later, Agenda.arm,
      ne_eq, not_true_eq_false, if_false, List.nil_append]
  have goes : ¬Breaks breakAt n := fun breaks => by
    have broken := (kept.alive (by rw [running]; nofun)).2.2 breaks
    rw [running] at broken
    cases broken
  have log : past ++ (s.ticks ++ [due d (n + 1)]) = (List.range' 1 (n + 1)).map (due d) := by
    rw [← List.append_assoc, kept.log, List.range'_1_concat, List.map_append, Nat.add_comm 1 n]
    rfl
  have unbroken : ∀ b, Breaks breakAt b → n + 1 ≤ b := fun b breaks =>
    Nat.lt_of_le_of_ne (kept.unbroken b breaks) (by rintro rfl; exact goes breaks)
  have next : due d (n + 1) < due d (n + 2) := due_strictMono d (Nat.lt_succ_self _)
  rw [polled]
  split
  case isTrue breaks =>
    exact ⟨⟨rfl, rfl, rfl, rfl, rfl, log, le_rfl, fun _ => next, unbroken,
      fun _ => ⟨rfl, iff_of_true rfl ⟨Nat.succ_pos n, breaks⟩⟩⟩, nofun⟩
  case isFalse goes' =>
    exact ⟨⟨rfl, rfl, rfl, rfl, rfl, log, le_rfl, fun _ => next, unbroken,
      fun _ => ⟨rfl, iff_of_false nofun fun breaks => goes' breaks.2⟩⟩, nofun⟩

/-- The clock goes on without a check. -/
theorem pass (kept : Kept d breakAt past life clock n s) {life' target : ℕ} (le : life ≤ life')
    (next : ¬Breaks breakAt n → life' < due d (n + 1)) (alive : s.fate ≠ .stopped → life' = target) :
    Kept d breakAt past life' target n { s with agenda := { s.agenda with now := target } } where
  monitor := kept.monitor
  breaking := kept.breaking
  idle := kept.idle
  now := rfl
  timers := kept.timers
  log := kept.log
  reached := kept.reached.trans le
  next := next
  unbroken := kept.unbroken
  alive := fun here => ⟨alive here, (kept.alive here).2⟩

/-- An advance lets a monitor make its checks up to the target, one after another. -/
theorem advance (kept : Kept d breakAt past life clock n s) (alive : s.fate ≠ .stopped)
    {target fuel : ℕ} (le : clock ≤ target) (enough : target - clock < fuel) :
    (∃ n', Kept d breakAt past target target n' (Scheduled.advance target fuel s)) ∧
      (Scheduled.advance target fuel s).fate ≠ .stopped := by
  -- Every check takes the clock to a later millisecond, so what is left of the way is enough to stop
  -- at each of them.
  induction fuel generalizing life clock n s with
  | zero => cases enough
  | succ fuel ih =>
      obtain ⟨same, broken⟩ := kept.alive alive
      have timers := kept.timers
      by_cases breaks : Breaks breakAt n
      · rw [if_neg (by rw [broken.2 breaks]; nofun)] at timers
        have none : s.agenda.nextDue? target = none := by simp [Agenda.nextDue?, timers]
        rw [advance_of_none none]
        exact ⟨⟨n, kept.pass (same.trans_le le) (absurd breaks) fun _ => rfl⟩, alive⟩
      · have running : s.fate = .running := by
          cases fate : s.fate with
          | running => rfl
          | broken => exact absurd (broken.1 fate) breaks
          | stopped => exact absurd fate alive
        rw [if_pos running] at timers
        rcases Nat.lt_or_ge target (due d (n + 1)) with before | reached
        · rw [advance_of_none (nextDue?_of_lt timers before)]
          exact ⟨⟨n, kept.pass (same.trans_le le) (fun _ => before) fun _ => rfl⟩, alive⟩
        · obtain ⟨checked, alive'⟩ := kept.check running
          have ahead : clock < due d (n + 1) := same.symm.trans_lt (kept.next breaks)
          rw [advance_of_due timers kept.idle (kept.now.trans_le ahead.le) reached checked.idle]
          exact ih checked alive' reached (by omega)

/-- A stopped monitor makes no check, however long the clock goes on. -/
theorem advance_stopped (kept : Kept d breakAt past life clock n s) (stopped : s.fate = .stopped)
    (target fuel : ℕ) : Kept d breakAt past life target n (Scheduled.advance target (fuel + 1) s) ∧
      (Scheduled.advance target (fuel + 1) s).fate = .stopped := by
  have timers := kept.timers
  rw [if_neg (by rw [stopped]; nofun)] at timers
  have none : s.agenda.nextDue? target = none := by simp [Agenda.nextDue?, timers]
  rw [advance_of_none none]
  exact ⟨kept.pass le_rfl kept.next (absurd stopped), stopped⟩

/-- The times on record are cleared at the start of a move. -/
theorem clear (kept : Kept d breakAt past life clock n s) :
    Kept d breakAt (past ++ s.ticks) life clock n { s with ticks := [] } :=
  { kept with log := (List.append_nil _).trans kept.log }

theorem stop (kept : Kept d breakAt past life clock n s) :
    Kept d breakAt past life clock n (s.act .stop) where
  monitor := kept.monitor
  breaking := kept.breaking
  idle := by
    show s.agenda.ready.filter _ = []
    rw [kept.idle, List.filter_nil]
  now := kept.now
  timers := by
    show s.agenda.timers.filter (·.task ≠ ()) = []
    simp
  log := kept.log
  reached := kept.reached
  next := kept.next
  unbroken := kept.unbroken
  alive := absurd rfl

end Kept

/-! ## Runs

Records are kept per move, so the checks of a run are put together from them. -/

/-- The stage after one move. -/
def move (s : MonitorStage) (m : MonitorStep) : MonitorStage :=
  Scheduled.settle Scheduled.patience ({ s with ticks := [] }.act m)

/-- The stage after some moves. -/
def after (s : MonitorStage) (moves : List MonitorStep) : MonitorStage := moves.foldl move s

/-- The times of all checks that are made in a run. -/
def checks (records : List MonitorStage) : List ℕ := records.flatMap MonitorStage.ticks

theorem run_concat (s : MonitorStage) (moves : List MonitorStep) (m : MonitorStep) :
    s.run (moves ++ [m]) = s.run moves ++ [(s.after moves).move m] := by
  induction moves generalizing s with
  | nil => rfl
  | cons first rest ih => exact congrArg (s.move first :: ·) (ih (s.move first))

theorem after_concat (s : MonitorStage) (moves : List MonitorStep) (m : MonitorStep) :
    s.after (moves ++ [m]) = (s.after moves).move m := by
  rw [after, after, List.foldl_append]
  rfl

theorem getElem?_run (s : MonitorStage) {moves : List MonitorStep} {i : ℕ} (lt : i < moves.length) :
    (s.run moves)[i]? = some (s.after (moves.take (i + 1))) := by
  induction moves generalizing s i with
  | nil => cases lt
  | cons first rest ih =>
      cases i with
      | zero => rfl
      | succ i => exact ih (s.move first) (Nat.lt_of_succ_lt_succ lt)

/-- The first records are those of the first moves. -/
theorem take_run (s : MonitorStage) (moves : List MonitorStep) (i : ℕ) :
    (s.run moves).take i = s.run (moves.take i) := by
  induction moves generalizing s i with
  | nil => rw [List.take_nil]; exact List.take_nil
  | cons first rest ih =>
      cases i with
      | zero => rfl
      | succ i => exact congrArg (s.move first :: ·) (ih (s.move first) i)

variable {d : Duration} {breakAt : Option ℕ}

/-- A monitor that has started has checked nothing yet. -/
theorem kept_started (d : Duration) (breakAt : Option ℕ) :
    Kept d breakAt [] 0 0 0 (started d breakAt) ∧ (started d breakAt).fate = .running ∧
      (started d breakAt).ticks = [] := by
  have begun : started d breakAt = ⟨⟨0, [], [⟨due d 1, ()⟩]⟩, ⟨max d Duration.milli, some 0, 0⟩, breakAt,
      .running, []⟩ := settle_of_ready rfl rfl
  rw [begun]
  refine ⟨⟨rfl, rfl, rfl, rfl, rfl, rfl, (due_zero d).le, fun _ => ?_, fun b _ => b.zero_le,
    fun _ => ⟨rfl, iff_of_false nofun fun breaks => absurd breaks.1 (by decide)⟩⟩, rfl, rfl⟩
  exact (due_zero d).symm.trans_lt (due_strictMono d Nat.one_pos)

/-- A move is an advance or a stop, and nothing is left to be run after either. -/
theorem Kept.move {past : List ℕ} {life clock n : ℕ} {s : MonitorStage}
    (kept : Kept d breakAt past life clock n s) (m : MonitorStep) :
    ∃ n', Kept d breakAt (past ++ s.ticks) (if s.fate = .stopped then life else life + elapsed [m])
        (clock + elapsed [m]) n' (s.move m) ∧
      ((s.move m).fate = .stopped ↔ s.fate = .stopped ∨ m = .stop) := by
  cases m with
  | stop =>
      have stopped := kept.clear.stop
      rw [MonitorStage.move, settle_of_idle stopped.idle]
      refine ⟨n, ?_, iff_of_true rfl (.inr rfl)⟩
      rwa [elapsed, elapsed, Nat.add_zero, ite_self]
  | advance ms =>
      have now : ({ s with ticks := [] } : MonitorStage).agenda.now = clock := kept.now
      have act : ({ s with ticks := [] } : MonitorStage).act (.advance ms)
          = Scheduled.advance (clock + ms) (ms + 1) { s with ticks := [] } := by
        rw [MonitorStage.act, now]
      rw [MonitorStage.move, act, elapsed, elapsed, Nat.add_zero]
      by_cases stopped : s.fate = .stopped
      · obtain ⟨passed, stopped'⟩ := kept.clear.advance_stopped stopped (clock + ms) ms
        rw [settle_of_idle passed.idle, if_pos stopped]
        exact ⟨n, passed, iff_of_true stopped' (.inl stopped)⟩
      · obtain ⟨⟨n', passed⟩, alive⟩ :=
          kept.clear.advance stopped (Nat.le_add_right clock ms) (by omega : clock + ms - clock < ms + 1)
        rw [settle_of_idle passed.idle, if_neg stopped, (kept.alive stopped).1]
        exact ⟨n', passed, iff_of_false alive (by simpa using stopped)⟩

/-- What is on record after some moves: when the clock goes on, the checks that have come due are
made, and when the monitor is stopped, it stays as it is. -/
theorem kept_after (d : Duration) (breakAt : Option ℕ) (moves : List MonitorStep) :
    ∃ past n, Kept d breakAt past (lifetime moves) (elapsed moves) n ((started d breakAt).after moves) ∧
      past ++ ((started d breakAt).after moves).ticks = checks ((started d breakAt).run moves) ∧
      (((started d breakAt).after moves).fate = .stopped ↔ .stop ∈ moves) := by
  induction moves using List.reverseRecOn with
  | nil =>
      obtain ⟨kept, running, ticks⟩ := kept_started d breakAt
      refine ⟨[], 0, kept, ticks, iff_of_false ?_ List.not_mem_nil⟩
      show (started d breakAt).fate ≠ _
      rw [running]
      nofun
  | append_singleton moves m ih =>
      obtain ⟨past, n, kept, log, stopped⟩ := ih
      obtain ⟨n', kept', stopped'⟩ := kept.move m
      have life : lifetime (moves ++ [m]) = if ((started d breakAt).after moves).fate = .stopped
          then lifetime moves else lifetime moves + elapsed [m] := by
        split
        case isTrue here => exact MonitorStep.lifetime_concat_of_mem (stopped.1 here) m
        case isFalse alive =>
          exact MonitorStep.lifetime_concat_of_notMem (fun mem => alive (stopped.2 mem)) m
      rw [after_concat, run_concat, life, MonitorStep.elapsed_concat]
      refine ⟨_, n', kept', ?_, ?_⟩
      · rw [log, checks, checks, List.flatMap_append, List.flatMap_singleton]
      · rw [stopped', stopped, List.mem_append, List.mem_singleton, eq_comm (a := m)]

/-! ## On schedule -/

/-- The check breaks by some time. -/
def BreaksBy (d : Duration) (breakAt : Option ℕ) (time : ℕ) : Prop :=
  ∃ b, Breaks breakAt b ∧ due d b ≤ time

/-- A stage after some moves, and the times of all checks that have been made. -/
structure OnSchedule (d : Duration) (breakAt : Option ℕ) (moves : List MonitorStep) (s : MonitorStage)
    (times : List ℕ) : Prop where
  now : s.agenda.now = elapsed moves
  /-- There is one check at each due time, up to the one that breaks and as long as the monitor is
  not stopped. -/
  scheduled : ∃ n, times = (List.range' 1 n).map (due d) ∧
    ∀ k, 1 ≤ k → (k ≤ n ↔ due d k ≤ lifetime moves ∧ ∀ b, Breaks breakAt b → k ≤ b)
  /-- No two checks are made at once. -/
  increasing : times.Pairwise (· < ·)
  /-- No check is made at the start. -/
  later : ∀ t ∈ times, 0 < t
  running : s.isRunning = some true ↔ .stop ∉ moves ∧ ¬BreaksBy d breakAt (lifetime moves)
  broken : s.isRunning = some false ↔ .stop ∉ moves ∧ BreaksBy d breakAt (lifetime moves)
  stopped : s.isRunning = none ↔ .stop ∈ moves

namespace Kept

variable {past : List ℕ} {life clock n : ℕ} {s : MonitorStage}

/-- The checks that have been made are those that have come due, up to the one that breaks. -/
theorem le_iff (kept : Kept d breakAt past life clock n s) {k : ℕ} :
    k ≤ n ↔ due d k ≤ life ∧ ∀ b, Breaks breakAt b → k ≤ b := by
  constructor
  · intro le
    exact ⟨((due_strictMono d).monotone le).trans kept.reached, fun b breaks =>
      le.trans (kept.unbroken b breaks)⟩
  · rintro ⟨reached, unbroken⟩
    refine Nat.le_of_not_lt fun lt => ?_
    have goes : ¬Breaks breakAt n := fun breaks => Nat.not_le_of_lt lt (unbroken n breaks)
    have passed : due d (n + 1) ≤ life := ((due_strictMono d).monotone lt).trans reached
    exact Nat.not_lt_of_le passed (kept.next goes)

/-- The last check is the one that breaks if that one has come due. -/
theorem breaks_iff (kept : Kept d breakAt past life clock n s) :
    Breaks breakAt n ↔ BreaksBy d breakAt life := by
  constructor
  · exact fun breaks => ⟨n, breaks, kept.reached⟩
  · rintro ⟨b, breaks, reached⟩
    have made : b ≤ n := kept.le_iff.2 ⟨reached, fun b' breaks' =>
      (Option.some.inj (breaks.2.symm.trans breaks'.2)).le⟩
    rwa [Nat.le_antisymm (kept.unbroken b breaks) made]

end Kept

/-- Somebody may ask as long as the monitor was not stopped, and it runs as long as it has not
broken. -/
theorem isRunning_eq_some_true_iff {s : MonitorStage} :
    s.isRunning = some true ↔ s.fate ≠ .stopped ∧ s.fate ≠ .broken := by
  unfold isRunning
  cases s.fate <;> simp

theorem isRunning_eq_some_false_iff {s : MonitorStage} : s.isRunning = some false ↔ s.fate = .broken := by
  unfold isRunning
  cases s.fate <;> simp

theorem isRunning_eq_none_iff {s : MonitorStage} : s.isRunning = none ↔ s.fate = .stopped := by
  unfold isRunning
  cases s.fate <;> simp

/-- A monitor has broken if the check that breaks was due while it lasted. -/
theorem Kept.fate_broken_iff {past : List ℕ} {life clock n : ℕ} {s : MonitorStage}
    (kept : Kept d breakAt past life clock n s) :
    s.fate = .broken ↔ s.fate ≠ .stopped ∧ BreaksBy d breakAt life := by
  rw [← kept.breaks_iff]
  constructor
  · intro broken
    have alive : s.fate ≠ .stopped := by rw [broken]; nofun
    exact ⟨alive, (kept.alive alive).2.1 broken⟩
  · rintro ⟨alive, breaks⟩
    exact (kept.alive alive).2.2 breaks

/-- Everything about the schedule, from what is kept. -/
theorem onSchedule (d : Duration) (breakAt : Option ℕ) (moves : List MonitorStep) :
    OnSchedule d breakAt moves ((started d breakAt).after moves)
      (checks ((started d breakAt).run moves)) := by
  obtain ⟨past, n, kept, log, stopped⟩ := kept_after d breakAt moves
  have times := log.symm.trans kept.log
  have broken := kept.fate_broken_iff
  rw [Ne, stopped] at broken
  rw [times]
  refine ⟨kept.now, ⟨n, rfl, fun k _ => kept.le_iff⟩, ?_, ?_, ?_, ?_, ?_⟩
  · exact List.pairwise_map.2 (List.Pairwise.imp (fun lt => due_strictMono d lt) List.pairwise_lt_range')
  · intro t mem
    obtain ⟨k, own, rfl⟩ := List.mem_map.1 mem
    rw [← due_zero d]
    exact due_strictMono d (List.mem_range'_1.1 own).1
  · rw [isRunning_eq_some_true_iff, Ne, stopped, Ne, broken]
    exact and_congr_right fun alive => not_congr (and_iff_right alive)
  · rw [isRunning_eq_some_false_iff, broken]
  · rw [isRunning_eq_none_iff, stopped]

/-- The moves tell when the checks are made, and of them only the time up to the stop counts. -/
theorem OnSchedule.times_eq {moves moves' : List MonitorStep} {s s' : MonitorStage}
    {times times' : List ℕ} (on : OnSchedule d breakAt moves s times)
    (on' : OnSchedule d breakAt moves' s' times') (same : lifetime moves = lifetime moves') :
    times = times' := by
  obtain ⟨n, rfl, made⟩ := on.scheduled
  obtain ⟨n', rfl, made'⟩ := on'.scheduled
  rw [same] at made
  have both {k l : ℕ} (iff : ∀ j, 1 ≤ j → (j ≤ k ↔ j ≤ l)) : k = l := by
    have up := iff k
    have down := iff l
    omega
  rw [both fun k pos => (made k pos).trans (made' k pos).symm]

/-- A monitor checks once at each due time that the clock reaches, from one interval after the start
up to the first break or stop, and never otherwise.  However the time up to the stop is divided into
advances, the checks are the same. -/
theorem checks_on_schedule (d : Duration) (breakAt : Option ℕ) (moves : List MonitorStep) :
    OnSchedule d breakAt [] (started d breakAt) (started d breakAt).ticks ∧
      (∀ i < moves.length, ∃ record, ((started d breakAt).run moves)[i]? = some record ∧
        OnSchedule d breakAt (moves.take (i + 1)) record
          (checks (((started d breakAt).run moves).take (i + 1)))) ∧
      ∀ moves', lifetime moves' = lifetime moves →
        checks ((started d breakAt).run moves') = checks ((started d breakAt).run moves) := by
  refine ⟨?_, fun i lt => ⟨_, getElem?_run _ lt, ?_⟩, fun moves' same => ?_⟩
  · rw [(kept_started d breakAt).2.2]
    exact onSchedule d breakAt []
  · rw [take_run]
    exact onSchedule d breakAt _
  · exact (onSchedule d breakAt moves').times_eq (onSchedule d breakAt moves) same

/-- Every five milliseconds, whether the clock goes on at once or not, and never after a stop. -/
theorem divided_advances_check_alike :
    checks ((started 5000000 (some 4)).run [.advance 12, .advance 3, .stop, .advance 50])
        = checks ((started 5000000 (some 4)).run [.advance 15]) ∧
      checks ((started 5000000 (some 4)).run [.advance 15]) = [5, 10, 15] :=
  ⟨(checks_on_schedule 5000000 (some 4) [.advance 15]).2.2 _ rfl, by rfl⟩

end MonitorStage
end Rehearsal
end LanguageBridge
