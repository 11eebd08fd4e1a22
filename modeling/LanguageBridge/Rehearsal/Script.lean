import LanguageBridge.Json.Draft
import LanguageBridge.Link
import LanguageBridge.Message

/-!
# Scripted servers

A script says how the connector and the servers behind it behave: whether a connection comes about
and how long that takes, and what is replied to which request, and when.
-/

namespace LanguageBridge.Rehearsal

/-- What a server replies to a request. -/
inductive ReplyText where
  | silent
  /-- A text in which `$ID` stands for the id of the request. -/
  | raw (text : String)
  /-- A proper reply with a result or an error, or both or none. -/
  | proper (result error : Option Json)

/-- A reply, and after how many milliseconds it is sent if not at once. -/
structure ScriptedReply where
  text : ReplyText
  delay : Option Nat

/-- How the connector and the servers behave. -/
structure Script where
  /-- How many calls of the connector are refused from now on. -/
  refusals : Nat
  /-- Whether the connector never comes back. -/
  hangs : Bool
  /-- Whether a server stays when it is asked to close. -/
  lingers : Bool
  /-- The time in milliseconds that it takes to open a connection. -/
  openDelay : Nat
  /-- The state of a socket that has just been opened. -/
  openState : SocketState
  /-- What a server says it can do. -/
  capabilities : Json
  /-- The replies by method; the first one counts. -/
  replies : List (String × ScriptedReply)

namespace Script

/-- The capabilities of a server that offers everything. -/
def everything : Json :=
  .object [
    ("completionProvider", .object [("triggerCharacters", .list [.text "."])]),
    ("hoverProvider", .bool true),
    ("signatureHelpProvider", .object [("triggerCharacters", .list [.text "(", .text ","])])]

/-- Servers that behave well and offer some capabilities. -/
def obliging (capabilities : Json) : Script :=
  ⟨0, false, false, 0, .opened, capabilities, []⟩

/-- The reply to a method that the script does not mention. -/
def ordinary (p : Script) (method : String) : ReplyText :=
  if method = "initialize" then .proper (some (.object [("capabilities", p.capabilities)])) none
  else .proper (some .null) none

/-- The reply to a method. -/
def reply (p : Script) (method : String) : ScriptedReply :=
  (p.replies.lookup method).getD ⟨p.ordinary method, none⟩

/-- A reply of the script replaced. -/
def setReply (p : Script) (method : String) (reply : ScriptedReply) : Script :=
  { p with replies := (method, reply) :: p.replies }

end Script

/-- A list of characters with every `$ID` in it replaced. -/
def withId (id : List Char) : List Char → List Char
  | '$' :: 'I' :: 'D' :: rest => id ++ withId id rest
  | c :: rest => c :: withId id rest
  | [] => []

/-- The text of a reply to a request. -/
def ReplyText.frame? (id : Nat) : ReplyText → Option String
  | .silent => none
  | .raw text => some (String.ofList (withId (Digits.render id).toList text.toList))
  | .proper result error =>
    let fields := ("jsonrpc", Json.text "2.0") :: ("id", .nat id)
      :: Json.field? "result" result ++ Json.field? "error" error
    some (Json.object fields).compact

end LanguageBridge.Rehearsal
