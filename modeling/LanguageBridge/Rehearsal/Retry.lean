import LanguageBridge.Agenda
import LanguageBridge.Retry

/-!
# Rehearsing the retry slot

A retry slot with the timers of the retries that it has armed, on a clock of its own.  A timer is
stopped when its retry loses the slot to a cancellation, to another retry or to the end of the slot.
One that elapses may claim the slot, or leave that to somebody else.

On a stage every timer elapses at its own time: when time passes, the clock stops at each timer that
comes due, in the order of their due times, and of two that are due together the one armed first
elapses first.
-/

namespace LanguageBridge.Rehearsal

/-- A timer that has elapsed. -/
structure Fired where
  token : Nat
  time : Nat
  /-- Whether the slot was claimed, if the timer tried to. -/
  claimed : Option Bool
  deriving DecidableEq, Repr

/-- A retry slot, as long as it exists, and the timers of its retries. -/
structure RetryStage where
  /-- The clock, and the timers that are running, by the tokens of their retries. -/
  agenda : Agenda Nat
  retry : Option Retry
  /-- The retries whose timers claim the slot when they elapse. -/
  claiming : List Nat
  /-- The timers that have elapsed, the first one first. -/
  fired : List Fired

/-- One move. -/
inductive RetryStep where
  | backoff (claims : Bool)
  | forced (claims : Bool)
  | cancel
  | reset
  | complete (token : Nat)
  | advance (ms : Nat)
  | drop

/-- What a move gives back. -/
inductive RetryValue where
  | nothing
  | delay (d : Duration)
  | flag (b : Bool)
  deriving DecidableEq, Repr

namespace RetryStage

/-- A stage with a fresh slot. -/
def fresh (backoff : Backoff) (forcedDelay : Duration) : RetryStage :=
  ⟨.empty, some (.fresh backoff forcedDelay), [], []⟩

/-- The token of the pending retry, if there is one. -/
def pending? (s : RetryStage) : Option Nat := s.retry.bind Retry.pending

/-- The timer of a retry stopped. -/
def stop (s : RetryStage) (token : Nat) : RetryStage :=
  { s with agenda := s.agenda.disarm token }

/-- The timer of the pending retry stopped. -/
def stopPending (s : RetryStage) : RetryStage :=
  match s.pending? with
  | some token => s.stop token
  | none => s

/-- A timer started for a retry that has just been armed. -/
def launch (s : RetryStage) (armed : Retry.Armed) (claims : Bool) : RetryStage :=
  { s with
    agenda := s.agenda.arm armed.token (Duration.dueAt s.agenda.now armed.delay)
    claiming := if claims then s.claiming ++ [armed.token] else s.claiming }

/-- A retry armed by one of the two ways to do so. -/
def schedule (s : RetryStage) (how : Retry → Retry.Armed × Retry) (claims : Bool) :
    RetryValue × RetryStage :=
  match s.retry with
  | none => (.nothing, s)
  | some r =>
    let (armed, r) := how r
    (.delay armed.delay, { s.stopPending with retry := some r }.launch armed claims)

/-- The pending retry cancelled. -/
def cancel (s : RetryStage) : RetryValue × RetryStage :=
  match s.retry with
  | none => (.nothing, s)
  | some r => (.flag r.pending.isSome, { s.stopPending with retry := some r.cancel })

/-- The slot claimed with a token. -/
def complete (s : RetryStage) (token : Nat) : RetryValue × RetryStage :=
  match s.retry with
  | none => (.nothing, s)
  | some r =>
    let (claimed, r) := r.claim token
    (.flag claimed, { s with retry := some r })

/-- The slot gone. -/
def drop (s : RetryStage) : RetryStage := { s.stopPending with retry := none }

/-- Whether the timer of a retry is running and its time has come. -/
def isDue (s : RetryStage) (token : Nat) : Bool :=
  s.agenda.timers.any fun t => t.task = token && t.due ≤ s.agenda.now

/-- What the timer of a retry gets for claiming the slot, if it does so and the slot is still
there. -/
def claim? (s : RetryStage) (token : Nat) : Option (Bool × Retry) :=
  if token ∈ s.claiming then s.retry.map (·.claim token) else none

/-- A timer that comes to run elapses if its time has come. -/
def elapse (s : RetryStage) (token : Nat) : RetryStage :=
  if s.isDue token then
    let claim := s.claim? token
    { s.stop token with
      retry := (claim.map Prod.snd).or s.retry
      fired := s.fired ++ [⟨token, s.agenda.now, claim.map Prod.fst⟩] }
  else s

/-- The clock moved on to a time, but not back. -/
def wait (s : RetryStage) (time : Nat) : RetryStage :=
  { s with agenda := { s.agenda with now := max s.agenda.now time } }

/-- The timers that are due by a time, in the order in which they elapse. -/
def dueBy (s : RetryStage) (time : Nat) : List (Timer Nat) :=
  (s.agenda.timers.filter (·.due ≤ time)).mergeSort fun t u => t.due ≤ u.due

/-- Time passed up to a time; every timer that is due by then elapses. -/
def reach (s : RetryStage) (time : Nat) : RetryStage :=
  ((s.dueBy time).foldl (fun s t => (s.wait t.due).elapse t.task) s).wait time

/-- One move, before any timer elapses because of it. -/
def act (s : RetryStage) : RetryStep → RetryValue × RetryStage
  | .backoff claims => s.schedule Retry.scheduleBackoff claims
  | .forced claims => s.schedule Retry.scheduleForced claims
  | .cancel => s.cancel
  | .reset => (.nothing, { s with retry := s.retry.map Retry.reset })
  | .complete token => s.complete token
  | .advance ms => (.nothing, s.reach (s.agenda.now + ms))
  | .drop => (.nothing, s.drop)

/-- One move, and what comes due at once. -/
def move (s : RetryStage) (m : RetryStep) : RetryValue × RetryStage :=
  let (value, s) := s.act m
  (value, s.reach s.agenda.now)

/-- The stage after each of some moves, with what the move gave back and the timers that elapsed
meanwhile. -/
def run (s : RetryStage) : List RetryStep → List (RetryValue × List Fired × RetryStage)
  | [] => []
  | m :: rest =>
    let (value, t) := s.move m
    (value, t.fired.drop s.fired.length, t) :: t.run rest

end RetryStage
end LanguageBridge.Rehearsal
