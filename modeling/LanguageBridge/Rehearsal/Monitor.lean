import LanguageBridge.Agenda
import LanguageBridge.Monitor

/-!
# Rehearsing a monitor

A monitor on a clock of its own, whose check breaks on a given call or never.  Every check moves the
clock on by a millisecond at least, so the length of an advance bounds the number of checks in it.
-/

namespace LanguageBridge.Rehearsal

/-- What has become of a monitor. -/
inductive MonitorFate where
  | running
  /-- The check has told the monitor to break. -/
  | broken
  /-- The monitor has been stopped from outside. -/
  | stopped
  deriving DecidableEq, Repr

/-- A monitor, and the times of the checks it has made. -/
structure MonitorStage where
  agenda : Agenda Unit
  monitor : Monitor
  breakAt : Option Nat
  fate : MonitorFate
  ticks : List Nat

/-- One move. -/
inductive MonitorStep where
  | advance (ms : Nat)
  | stop

namespace MonitorStage

/-- A stage with a monitor that is about to start. -/
def fresh (interval : Duration) (breakAt : Option Nat) : MonitorStage :=
  ⟨Agenda.empty.wake (), .fresh interval, breakAt, .running, []⟩

/-- The timer of the next check armed. -/
def rest (s : MonitorStage) : MonitorStage :=
  { s with agenda := s.agenda.arm () s.monitor.nextDue }

/-- The start of the monitor, or one of its checks. -/
def poll (_ : Unit) (s : MonitorStage) : MonitorStage :=
  if s.fate ≠ .running then s
  else
    match s.monitor.start with
    | none => { s with monitor := s.monitor.begin s.agenda.now }.rest
    | some _ =>
      let m := s.monitor.checked
      let s := { s with monitor := m, ticks := s.ticks ++ [s.agenda.now] }
      if s.breakAt = some m.checks then { s with fate := .broken } else s.rest

instance : Scheduled MonitorStage Unit where
  agenda := MonitorStage.agenda
  withAgenda s a := { s with agenda := a }
  poll := poll

/-- A stage with a monitor that has just started. -/
def started (interval : Duration) (breakAt : Option Nat) : MonitorStage :=
  Scheduled.settle Scheduled.patience (fresh interval breakAt)

/-- One move, before what it makes ready has run. -/
def act (s : MonitorStage) : MonitorStep → MonitorStage
  | .advance ms => Scheduled.advance (s.agenda.now + ms) (ms + 1) s
  | .stop => { s with fate := .stopped, agenda := s.agenda.forget () }

/-- The stage after each of some moves, with the checks made meanwhile only. -/
def run (s : MonitorStage) : List MonitorStep → List MonitorStage
  | [] => []
  | move :: rest =>
    let s := Scheduled.settle Scheduled.patience ({ s with ticks := [] }.act move)
    s :: s.run rest

/-- Whether the monitor still runs; none once it has been stopped. -/
def isRunning (s : MonitorStage) : Option Bool :=
  match s.fate with
  | .running => some true
  | .broken => some false
  | .stopped => none

end MonitorStage
end LanguageBridge.Rehearsal
