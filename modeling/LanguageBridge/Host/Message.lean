import LanguageBridge.Editor.Result
import LanguageBridge.Json.Printer
import LanguageBridge.Json.Tagged

/-!
# Messages between host and bridge

The host and the bridge exchange named messages, one on each line: commands come in, events go
out.
-/

namespace LanguageBridge.Host

open Json (Decoder Content Tagged)

/-- A message from the host. -/
inductive Command where
  | setText (text : String)
  | setCursor (place : Editor.Position)
  /-- A new endpoint of the language server. -/
  | setEndpoint (endpoint : String)
  | setHeader (header : String)
  | getHeader
  | completion (place : Editor.Position)
  | hover (place : Editor.Position)
  | signatureHelp (place : Editor.Position)
  | destroy
  deriving DecidableEq, Repr, Inhabited

namespace Command

/-- The names of commands and what has to follow them. -/
def tagged : Tagged Command where
  type := "BridgeCommand"
  variants := [
    ("set_text", .required (Decoder.map .setText Decoder.text)),
    ("set_cursor", .required (Decoder.map .setCursor Editor.Position.decoder)),
    ("lsp_url", .required (Decoder.map .setEndpoint Decoder.text)),
    ("set_lsp_header", .required (Decoder.map .setHeader Decoder.text)),
    ("get_lsp_header", .empty "BridgeCommand::GetLspHeader" .getHeader),
    ("completion", .required (Decoder.map .completion Editor.Position.decoder)),
    ("hover", .required (Decoder.map .hover Editor.Position.decoder)),
    ("signature_help", .required (Decoder.map .signatureHelp Editor.Position.decoder)),
    ("destroy", .empty "BridgeCommand::Destroy" .destroy)]

/-- Reads a command. -/
def decoder : Decoder Command := tagged.decoder

/-- The written form of a command. -/
def toJson : Command → Json
  | .setText text => .named "set_text" (.text text)
  | .setCursor place => .named "set_cursor" place.toJson
  | .setEndpoint endpoint => .named "lsp_url" (.text endpoint)
  | .setHeader header => .named "set_lsp_header" (.text header)
  | .getHeader => .nameOnly "get_lsp_header"
  | .completion place => .named "completion" place.toJson
  | .hover place => .named "hover" place.toJson
  | .signatureHelp place => .named "signature_help" place.toJson
  | .destroy => .nameOnly "destroy"

/-- The command that a line stands for. -/
def ofLine (line : String) : Except Json.TextFault Command := Json.decodeText decoder line.toList

/-- The line that stands for a command. -/
def line (c : Command) : String := c.toJson.compact

end Command

/-- A message to the host. -/
inductive Event where
  | currentText (text : String)
  | currentCursor (place : Editor.Position)
  | currentHeader (header : String)
  | completion (suggestions : Editor.Suggestions)
  | hover (result : Option Editor.Hover)
  | signatureHelp (result : Editor.SignatureHelp)
  | warning (text : String)
  deriving DecidableEq, Repr, Inhabited

namespace Event

/-- The names of events and what has to follow them. -/
def tagged : Tagged Event where
  type := "BridgeEvent"
  variants := [
    ("current_text", .required (Decoder.map .currentText Decoder.text)),
    ("current_cursor", .required (Decoder.map .currentCursor Editor.Position.decoder)),
    ("current_lsp_header", .required (Decoder.map .currentHeader Decoder.text)),
    ("completion", .required (Decoder.map .completion Editor.Suggestions.decoder)),
    ("hover",
      ⟨Decoder.map .hover (Decoder.optional Editor.Hover.decoder), .ok (.hover none)⟩),
    ("signature_help", .required (Decoder.map .signatureHelp Editor.SignatureHelp.decoder)),
    ("warning", .required (Decoder.map .warning Decoder.text))]

/-- Reads an event. -/
def decoder : Decoder Event := tagged.decoder

/-- The written form of an event. -/
def toJson : Event → Json
  | .currentText text => .named "current_text" (.text text)
  | .currentCursor place => .named "current_cursor" place.toJson
  | .currentHeader header => .named "current_lsp_header" (.text header)
  | .completion suggestions => .named "completion" suggestions.toJson
  | .hover none => .named "hover" .null
  | .hover (some result) => .named "hover" result.toJson
  | .signatureHelp result => .named "signature_help" result.toJson
  | .warning text => .named "warning" (.text text)

/-- The line that stands for an event. -/
def line (e : Event) : String := e.toJson.compact

end Event
end LanguageBridge.Host
