import LanguageBridge.Client.System

/-!
# Connecting, reconnecting and the end

The ways in which a client gets a new connection: somebody asks for one, the endpoint changes, or a
connection is lost and the client tries again, after a delay that grows with the number of failed
attempts or after a fixed short one.  Each of them supersedes what came before.  A destroyed client
does none of this any more.
-/

namespace LanguageBridge.Client.System

/-! ## Stopping what runs -/

/-- The pause before the pending retry given up. -/
def stopPause (s : System) : System :=
  match s.state.retry.pending with
  | none => s
  | some token =>
    { s with pauses := s.pauses.filter (·.token ≠ token) }.forget (.pause token)

/-- The pending retry cancelled. -/
def cancelRetry (s : System) : System :=
  let s := s.stopPause
  { s with state := { s.state with retry := s.state.retry.cancel } }

/-- The count of failed attempts set back. -/
def resetAttempts (s : System) : System :=
  { s with state := { s.state with retry := s.state.retry.reset } }

/-- A series of health checks ended. -/
def endChecks (s : System) (id : Nat) : System :=
  { s with series := s.series.filter (·.id ≠ id) }.forget (.checks id)

/-- The health checks of the client stopped. -/
def stopChecks (s : System) : System :=
  match s.state.checks with
  | none => s
  | some id => { s.endChecks id with state := { s.state with checks := none } }

/-- What an attempt leaves behind: its session, which nobody needs any more. -/
def leave (s : System) : Phase → System
  | .starting => s
  | .opening _ => s
  | .watching c => s.dispose c
  | .handshaking c id _ =>
    (s.update c fun k => { k with session := k.session.abandon id }).dispose c

/-- A connection attempt ended, together with its session. -/
def endAttempt (s : System) (generation : Nat) : System :=
  match s.attempts.find? (·.generation = generation) with
  | none => s
  | some a =>
    { s with attempts := s.attempts.filter (·.generation ≠ generation) }.forget
      (.attempt generation) |>.leave a.phase

/-- The connection attempt of the client stopped. -/
def stopAttempt (s : System) : System :=
  match s.state.task with
  | none => s
  | some generation => { s.endAttempt generation with state := { s.state with task := none } }

/-! ## Retrying -/

/-- A retry armed in one of the two ways to do so. -/
def armRetry (s : System) (how : Retry → Retry.Armed × Retry) : System :=
  let s := s.stopPause
  let (armed, retry) := how s.state.retry
  { s with
    state := { s.state with retry := retry }
    pauses := s.pauses ++ [Pause.mk armed.token armed.delay none] }.wake (.pause armed.token)

/-- A reconnect after the fixed short delay; without an endpoint there is nothing to reconnect
to. -/
def reconnectSoon (s : System) : System :=
  if s.state.destroyed || s.state.endpoint.isNone then s else s.armRetry Retry.scheduleForced

/-- A connection attempt that has failed, or a connection that has closed.  Only the newest one
matters. -/
def lost (s : System) (generation : Nat) : System :=
  if s.state.generation ≠ generation then s
  else
    let previous := s.state.current
    let s := { s with state := { s.state with current := none, socket := none } }.stopChecks
    let s := if s.state.destroyed then s else s.armRetry Retry.scheduleBackoff
    s.disposeAny previous

/-! ## Connecting -/

/-- A connection attempt started for the present generation. -/
def startAttempt (s : System) (endpoint : String) : System :=
  let generation := s.state.generation
  let attempt := Attempt.mk generation endpoint .starting
  { s with
    state := { s.state with task := some generation }
    attempts := s.attempts ++ [attempt] }.wake (.attempt generation)

/-- The session in use and the socket given up. -/
def giveUp (s : System) : System :=
  let current := s.state.current
  let socket := s.state.socket
  let s := { s with state := { s.state with current := none, socket := none } }
  (s.disposeAny current).closeAny socket

/-- A new connection to an endpoint, in place of everything that was there before. -/
def connect (s : System) (endpoint : String) : System :=
  if s.state.destroyed then s
  else
    let generation := s.state.generation + 1
    let s := { s with state := { s.state with generation, endpoint := some endpoint } }
    (s.cancelRetry.stopAttempt.stopChecks.giveUp).startAttempt endpoint

/-- A connection to another endpoint, as if there had been none before. -/
def setEndpoint (s : System) (endpoint : String) : System :=
  if s.state.destroyed then s
  else
    let current := s.state.current
    let s := s.cancelRetry.resetAttempts
    let s := { s with state := { s.state with current := none } }
    (s.disposeAny current).connect endpoint

/-! ## The end -/

/-- The registered providers taken away. -/
def unregister (s : System) : System :=
  { s with
    registry := s.registry.disposeAll s.state.handles
    state := { s.state with handles := [] } }

/-- The client destroyed for good. -/
def destroy (s : System) : System :=
  if s.state.destroyed then s
  else
    let s := { s with state := { s.state with
      destroyed := true
      generation := s.state.generation + 1
      observer := none } }
    s.cancelRetry.stopAttempt.stopChecks.unregister.giveUp

/-- What becomes of a client that nobody holds any more: nothing is retried, checked or offered,
and an attempt that is under way is left to itself. -/
def release (s : System) : System :=
  if s.alive then s
  else
    let s := s.cancelRetry.stopChecks.unregister
    { s with state := { s.state with current := none, socket := none, task := none } }

/-- The client let go of by its owner. -/
def disown (s : System) : System := { s with owned := false }.release

theorem connect_of_destroyed {s : System} (endpoint : String) (h : s.state.destroyed = true) :
    s.connect endpoint = s := by
  rw [connect, if_pos h]

theorem setEndpoint_of_destroyed {s : System} (endpoint : String) (h : s.state.destroyed = true) :
    s.setEndpoint endpoint = s := by
  rw [setEndpoint, if_pos h]

theorem destroy_of_destroyed {s : System} (h : s.state.destroyed = true) : s.destroy = s := by
  rw [destroy, if_pos h]

theorem lost_of_ne {s : System} {generation : Nat} (h : s.state.generation ≠ generation) :
    s.lost generation = s := by
  rw [lost, if_pos h]

end LanguageBridge.Client.System
