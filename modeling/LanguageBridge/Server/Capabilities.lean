import LanguageBridge.Json.Value

/-!
# Server capabilities

What a server says it can do in its reply to the handshake.  A feature is offered when its member
is there and is neither `null` nor `false`; the members stand under `capabilities`, or directly in
a reply that has no such member.
-/

namespace LanguageBridge.Server

/-- The features that a server offers. -/
structure Capabilities where
  completion : Bool
  hover : Bool
  signatureHelp : Bool
  completionTriggers : List String
  signatureTriggers : List String
  deriving DecidableEq, Repr

namespace Capabilities

/-- The capabilities of a server that has not said anything yet. -/
def none : Capabilities := ⟨false, false, false, [], []⟩

instance : Inhabited Capabilities := ⟨none⟩

/-- Whether a provider member offers its feature. -/
def offers : Option Json → Bool
  | .none => false
  | some .null => false
  | some (.bool b) => b
  | some _ => true

/-- The trigger characters of a provider member; what is no text among them is left out. -/
def triggers (provider : Option Json) : List String :=
  match (provider.bind (·.get? "triggerCharacters")).bind Json.list? with
  | .none => []
  | some items => items.filterMap Json.text?

/-- The capabilities that a handshake reply announces. -/
def ofReply (reply : Json) : Capabilities :=
  let members := (reply.get? "capabilities").getD reply
  { completion := offers (members.get? "completionProvider")
    hover := offers (members.get? "hoverProvider")
    signatureHelp := offers (members.get? "signatureHelpProvider")
    completionTriggers := triggers (members.get? "completionProvider")
    signatureTriggers := triggers (members.get? "signatureHelpProvider") }

end Capabilities
end LanguageBridge.Server
