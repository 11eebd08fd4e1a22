import LanguageBridge.Client.Validity

/-!
# Connection attempts

An attempt asks the connector for a connection, starts a session on it, greets the server, installs
the session and waits for the socket to close.  At every point where it waits it may have been
superseded in the meantime; then it closes what it has and reports nothing.
-/

namespace LanguageBridge.Client.System

/-- An attempt that has come to another phase. -/
def setPhase (s : System) (generation : Nat) (phase : Phase) : System :=
  { s with attempts := s.attempts.map fun a =>
    if a.generation = generation then { a with phase } else a }

/-- Whether an attempt is the newest one of a client that still wants it. -/
def wanted (s : System) (generation : Nat) : Bool :=
  s.alive && !s.state.destroyed && s.state.generation = generation

/-- An attempt that is over, with or without success. -/
def finishAttempt (s : System) (generation : Nat) : System :=
  let s := if s.alive then s.lost generation else s
  s.endAttempt generation

/-! ## Installing a session -/

/-- A new series of health checks for the client. -/
def startChecks (s : System) : System :=
  let id := s.seriesMade + 1
  { s with
    seriesMade := id
    state := { s.state with checks := some id }
    series := s.series ++ [Checks.mk id (.fresh s.state.options.healthInterval)] }.wake (.checks id)

/-- Fresh providers registered in place of the ones before. -/
def renewProviders (s : System) : System :=
  let provider := s.providersMade + 1
  let (handles, registry) := s.registry.registerAll s.state.options.languageId provider
  { s with
    providersMade := provider
    registry := registry.disposeAll s.state.handles
    state := { s.state with handles := handles } }

/-- The session of a connection made the one in use. -/
def install (s : System) (generation c : Nat) : System :=
  let s := s.cancelRetry.resetAttempts
  let s := { s with state := { s.state with
    current := some c, installed := some ⟨c, generation⟩ } }
  (s.stopChecks.startChecks.renewProviders).setPhase generation (.watching c)

/-! ## The handshake -/

/-- The handshake over, with the outcome of its request. -/
def finishHandshake (s : System) (generation c : Nat) (outcome : Outcome) : System :=
  let s := s.disarm (.attempt generation)
  let k := s.connection c
  let (result, session, link) := k.session.finishHandshake k.link outcome
  let s := s.exchange c session link
  match result with
  | .ok _ =>
    if s.wanted generation then s.install generation c
    else ((s.dispose c).closeSocket c).endAttempt generation
  | .error _ => ((s.dispose c).closeSocket c).finishAttempt generation

/-- What follows from the request of the handshake. -/
def greeted (s : System) (generation c : Nat) : Session.Call → System
  | .over outcome => s.finishHandshake generation c outcome
  | .waiting id due => s.setPhase generation (.handshaking c id due)

/-- A session started on a connection, and the server greeted. -/
def startSession (s : System) (generation c : Nat) : System :=
  let o := s.state.options
  let number := s.sessions + 1
  let s := { s with sessions := number }.update c fun k =>
    k.started number (.fresh o.languageId o.requestTimeout)
  let s := s.wake (.reader c)
  let k := s.connection c
  let (call, session, link) := k.session.greet k.link s.now o.handshakeTimeout 0
  let s := s.exchange c session link
  match call with
  | .over outcome => s.finishHandshake generation c outcome
  | .waiting id due =>
    (s.setPhase generation (.handshaking c id due)).arm (.attempt generation) due

/-! ## The connector -/

/-- The connector asked for a connection. -/
def callConnector (s : System) (a : Attempt) : System :=
  let c := s.connections.length
  let connection := Connection.called a.endpoint s.now
  { s with connections := s.connections ++ [connection] }.setPhase a.generation (.opening c)

/-- The call of the connector that an attempt waits for. -/
def call? (s : System) (generation : Nat) : Option Nat :=
  match s.attempts.find? (·.generation = generation) with
  | some a =>
    match a.phase with
    | .opening c => some c
    | .starting => none
    | .handshaking _ _ _ => none
    | .watching _ => none
  | none => none

/-- The connector has failed. -/
def connectorFailed (s : System) (generation : Nat) : System :=
  match s.call? generation with
  | none => s
  | some _ => s.finishAttempt generation

/-- The connector has opened a connection.  One that is not wanted any more is closed again. -/
def connectorOpened (s : System) (generation : Nat) (state : SocketState) : System :=
  match s.call? generation with
  | none => s
  | some c =>
    let wanted := s.wanted generation
    let s := s.update c fun k => k.opened state
    if wanted then
      { s with state := { s.state with socket := some c } }.startSession generation c
    else
      ((s.closeSocket c).update c fun k => { k with link := k.link.stopListening }).endAttempt
        generation

/-! ## Running -/

/-- An attempt run until it has to wait. -/
def runAttempt (s : System) (generation : Nat) : System :=
  match s.attempts.find? (·.generation = generation) with
  | none => s
  | some a =>
    match a.phase with
    | .starting => s.callConnector a
    | .opening _ => s
    | .handshaking c id due =>
      let k := s.connection c
      let (call, session) := k.session.resume s.now id due
      (s.update c fun k => { k with session }).greeted generation c call
    | .watching c =>
      if (s.connection c).link.state = .closed then s.finishAttempt generation else s

end LanguageBridge.Client.System
