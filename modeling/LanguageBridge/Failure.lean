import LanguageBridge.Digits
import LanguageBridge.Text.LowerCase
import LanguageBridge.Text.Search

/-!
# Failures

Everything that can go wrong between the bridge and the server.  A failure that shows that the
session behind a request is gone is *stale*.  Servers and what stands between tell so in free text
as often as by a proper failure, so the wording counts too, whatever its case.
-/

namespace LanguageBridge

/-- What went wrong. -/
inductive Failure where
  /-- The connection could not be opened. -/
  | connectFailed (reason : String)
  /-- The socket closed while the operation was in progress. -/
  | connectionClosed
  /-- The session was disposed of before the operation completed. -/
  | sessionDisposed
  /-- The handshake did not succeed. -/
  | handshakeFailed (reason : String)
  /-- No reply came in time. -/
  | timeout
  /-- The server answered with an error. -/
  | rpc (code : Int) (reason : String)
  /-- A reply did not have the expected shape. -/
  | undecodable (reason : String)
  /-- There is no usable session right now. -/
  | notConnected
  /-- The client has been destroyed. -/
  | destroyed
  /-- The socket failed. -/
  | io (reason : String)
  deriving DecidableEq, Repr, Inhabited

namespace Failure

/-- A whole number in decimal. -/
def renderInt (n : Int) : String :=
  if n < 0 then "-" ++ Digits.render n.natAbs else Digits.render n.natAbs

/-- The wording of a failure. -/
def message : Failure → String
  | .connectFailed reason => "Failed to connect to language server: " ++ reason
  | .connectionClosed => "Connection closed"
  | .sessionDisposed => "Session disposed"
  | .handshakeFailed reason => "LSP initialization failed: " ++ reason
  | .timeout => "LSP request timed out"
  | .rpc code reason => "LSP RPC error " ++ renderInt code ++ ": " ++ reason
  | .undecodable reason => "Failed to parse LSP response: " ++ reason
  | .notConnected => "Not connected to a language server"
  | .destroyed => "LSP client destroyed"
  | .io reason => "LSP IO error: " ++ reason

/-- Whether a wording tells of a session or a connection that is gone. -/
def tellsOfEnd (wording : String) : Bool :=
  let lowered := Text.lower wording
  Text.occurs "disposed" lowered || Text.occurs "closed" lowered

/-- Whether a failure shows that the session is gone. -/
def isStale : Failure → Bool
  | .sessionDisposed => true
  | .connectionClosed => true
  | other => tellsOfEnd other.message

end Failure
end LanguageBridge
