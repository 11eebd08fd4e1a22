import LanguageBridge.Session

/-!
# Connections

Every call of the connector makes a connection: first only the record of the call, later, if the
connector opens it, a link, and once the client has accepted the link, a session on it.

A connection that has not been opened counts as one with a closed link that nobody attends to, and
one without a session as one whose session is over.
-/

namespace LanguageBridge.Client

/-- What a call of the connector has led to. -/
structure Connection where
  endpoint : String
  /-- The time of the call. -/
  calledAt : Nat
  /-- Whether the connector has opened the connection. -/
  wasOpened : Bool
  link : Link Message
  /-- The number of the session, if there has been one. -/
  number : Option Nat
  session : Session

namespace Connection

/-- The link of a connection that has not been opened. -/
def noLink : Link Message :=
  { Link.fresh .closed with peer := false, feeding := false, listening := false }

/-- The session of a connection on which none has been started. -/
def noSession : Session := { Session.fresh "" 0 with disposed := true }

/-- A connection that the connector has just been asked for. -/
def called (endpoint : String) (now : Nat) : Connection :=
  ⟨endpoint, now, false, noLink, none, noSession⟩

/-- The connection opened by the connector, with its socket in some state. -/
def opened (k : Connection) (state : SocketState) : Connection :=
  { k with wasOpened := true, link := .fresh state }

/-- The connection with a fresh session. -/
def started (k : Connection) (number : Nat) (session : Session) : Connection :=
  { k with number := some number, session := session }

/-- The session of a connection disposed of; its texts are not read any more. -/
def dispose (k : Connection) : Connection :=
  { k with session := k.session.dispose, link := k.link.stopListening }

/-- The server asked to close the connection. -/
def close (k : Connection) : Connection := { k with link := k.link.close }

/-- Whether the session of a connection can be used, and if not, why. -/
def inspect (k : Connection) : Except Failure Unit := k.session.inspect k.link.state

end Connection
end LanguageBridge.Client
