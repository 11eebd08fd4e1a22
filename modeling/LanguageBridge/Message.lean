import LanguageBridge.Json.Equality
import LanguageBridge.Json.Printer
import LanguageBridge.Server.Position

/-!
# Messages to the server

What the client sends: requests, which carry an id and expect a reply, notifications, and replies
to requests of the server.  Their written form is that of JSON-RPC 2.0.
-/

namespace LanguageBridge

/-- A message to the server. -/
inductive Message where
  | request (id : Nat) (method : String) (params : Json)
  | notification (method : String) (params : Json)
  /-- An answer without content to a request of the server, which may have an id of any kind. -/
  | acknowledgement (id : Json)
  deriving DecidableEq

namespace Message

/-- The written form of a message. -/
def toJson : Message → Json
  | .request id method params =>
    .object [("id", .nat id), ("jsonrpc", .text "2.0"), ("method", .text method),
      ("params", params)]
  | .notification method params =>
    .object [("jsonrpc", .text "2.0"), ("method", .text method), ("params", params)]
  | .acknowledgement id =>
    .object [("id", id), ("jsonrpc", .text "2.0"), ("result", .null)]

/-- The frame of a message. -/
def frame (m : Message) : String := m.toJson.compact

/-- The formats in which documentation is understood. -/
def formats : Json := .list [.text "markdown", .text "plaintext"]

/-- What the client can do, told in the handshake. -/
def clientCapabilities : Json :=
  .object [
    ("textDocument", .object [
      ("completion", .object [("completionItem", .object [
        ("documentationFormat", formats), ("snippetSupport", .bool true)])]),
      ("hover", .object [("contentFormat", formats)]),
      ("signatureHelp", .object [("signatureInformation", .object [
        ("documentationFormat", formats),
        ("parameterInformation", .object [("labelOffsetSupport", .bool true)])])]),
      ("synchronization", .object [
        ("didSave", .bool false), ("dynamicRegistration", .bool false)])]),
    ("workspace", .object [
      ("configuration", .bool true),
      ("didChangeConfiguration", .object [("dynamicRegistration", .bool false)])])]

/-- The parameters of the request that starts the handshake, sent by a process. -/
def handshakeParams (process : Nat) : Json :=
  .object [("capabilities", clientCapabilities), ("processId", .nat process),
    ("rootUri", .null), ("workspaceFolders", .null)]

/-- The notification that ends the handshake. -/
def handshakeDone : Message := .notification "initialized" (.object [])

/-- The notification that gives the server the full text of a document. -/
def didOpen (uri languageId text : String) : Message :=
  .notification "textDocument/didOpen" (.object [("textDocument", .object [
    ("languageId", .text languageId), ("text", .text text), ("uri", .text uri),
    ("version", .nat 1)])])

/-- The notification that gives the server new settings. -/
def settingsChanged (settings : Json) : Message :=
  .notification "workspace/didChangeConfiguration" (.object [("settings", settings)])

/-- The parameters of a request about a place in a document. -/
def placeParams (uri : String) (place : Server.Position) : Json :=
  .object [("position", place.toJson), ("textDocument", .object [("uri", .text uri)])]

end Message
end LanguageBridge
