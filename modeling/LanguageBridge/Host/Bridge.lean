import LanguageBridge.Client.Run
import LanguageBridge.Host.Header

/-!
# The bridge

The bridge keeps the visible document and the cursor on behalf of the host and turns its commands
into what the client does.  What changes is echoed to the host.  Requests for features do not hold
up later commands: they run beside them, on the document as it was when the command came.
-/

namespace LanguageBridge.Host

open Client (System)

/-- A client, the document and the cursor. -/
structure Bridge where
  system : System
  document : String
  cursor : Editor.Position

/-- Whether the host is listened to after a command. -/
inductive Flow where
  | goesOn
  | ends
  deriving DecidableEq, Repr

namespace Bridge

/-- A bridge on a client; the host sees the signature help from now on. -/
def fresh (system : System) : Bridge := ⟨system.setObserver .host, "", ⟨1, 1⟩⟩

/-- What a client does, done by the client of a bridge. -/
def having (b : Bridge) (f : System → System) : Bridge := { b with system := f b.system }

/-- An event for the host. -/
def emit (b : Bridge) (e : Event) : Bridge :=
  b.having fun s => { s with events := s.events ++ [e] }

/-- A feature requested for the document as it is now. -/
def request (b : Bridge) (feature : Editor.Feature) (place : Editor.Position) : Bridge :=
  b.having fun s => s.ask .host feature (.registered s.state.options.languageId) b.document place

/-- The document replaced; only a change is echoed. -/
def setText (b : Bridge) (text : String) : Bridge :=
  if b.document = text then b else { b with document := text }.emit (.currentText text)

/-- The preamble set to a header. -/
def setHeader (b : Bridge) (text : String) : Bridge :=
  let header := normalizeHeader text
  (b.having (·.setPreamble header)).emit (.currentHeader (header.getD ""))

/-- The endpoint changed. -/
def setEndpoint (b : Bridge) (endpoint : String) : Bridge :=
  if b.system.state.destroyed then
    b.emit (.warning "LSP client destroyed; endpoint change ignored")
  else b.having (·.setEndpoint endpoint)

/-- A command carried out. -/
def handle (b : Bridge) : Command → Flow × Bridge
  | .setText text => (.goesOn, b.setText text)
  | .setCursor place => (.goesOn, { b with cursor := place }.emit (.currentCursor place))
  | .setEndpoint endpoint => (.goesOn, b.setEndpoint endpoint)
  | .setHeader header => (.goesOn, b.setHeader header)
  | .getHeader => (.goesOn, b.emit (.currentHeader (b.system.state.preamble.getD "")))
  | .completion place => (.goesOn, { b with cursor := place }.request .completion place)
  | .hover place => (.goesOn, b.request .hover place)
  | .signatureHelp place => (.goesOn, { b with cursor := place }.request .signatureHelp place)
  | .destroy => (.ends, b.having System.destroy)

/-- A line of the host carried out; a blank one means nothing. -/
def handleLine (b : Bridge) (line : String) : Flow × Bridge :=
  let trimmed := Text.trim line
  if trimmed.isEmpty then (.goesOn, b)
  else
    match Command.ofLine trimmed with
    | .ok command => b.handle command
    | .error fault => (.goesOn, b.emit (.warning ("unrecognized message: " ++ fault.message)))

end Bridge
end LanguageBridge.Host
