import LanguageBridge.Client.Reconnect

/-!
# Valid sessions and recovery from stale ones

A session that is over, or whose socket has closed, is *stale*.  Whoever comes across a stale
session has the client drop it and reconnect soon, but only if no newer connection has been started
since.
-/

namespace LanguageBridge.Client.System

/-- A reconnect on account of a stale session, unless that session has been replaced already. -/
def recover (s : System) (c : Nat) : System :=
  match s.state.current with
  | some d =>
    if d = c then
      ({ s with state := { s.state with current := none } }.dispose c).reconnectSoon
    else s
  | none =>
    if s.state.installed = some ⟨c, s.state.generation⟩ then s.reconnectSoon else s

/-- The session in use if it can be used; a stale one is dropped. -/
def validSession (s : System) : Option Nat × System :=
  match s.state.current with
  | none => (none, s)
  | some c =>
    match (s.connection c).inspect with
    | .ok () => (some c, s)
    | .error _ => (none, s.recover c)

/-- The reaction to a failure on the session of a connection. -/
def requestFailed (s : System) (c : Nat) (e : Failure) : System :=
  if e.isStale then s.recover c else s

/-- One health check: a stale session is dropped, and a socket that is not open calls for a
reconnect. -/
def checkHealth (s : System) : System :=
  match s.validSession with
  | (none, s) => s
  | (some c, s) => if (s.connection c).link.isOpen then s else s.reconnectSoon

/-- Whether there is a valid session with an open socket. -/
def isConnected (s : System) : Bool × System :=
  match s.validSession with
  | (none, s) => (false, s)
  | (some c, s) => ((s.connection c).link.isOpen, s)

/-- A message without a reply sent on the session of a connection. -/
def notify (s : System) (c : Nat) (m : Message) : Except Failure Unit × System :=
  let k := s.connection c
  match k.session.notify k.link m with
  | .error e => (.error e, s.requestFailed c e)
  | .ok link => (.ok (), s.exchange c k.session link)

/-- New settings given to the server. -/
def updateSettings (s : System) (settings : Json) : Except Failure Unit × System :=
  if s.state.destroyed then (.error .destroyed, s)
  else
    match s.validSession with
    | (none, s) => (.error .notConnected, s)
    | (some c, s) => s.notify c (.settingsChanged settings)

end LanguageBridge.Client.System
