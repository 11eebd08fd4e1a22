import LanguageBridge.Editor.Position
import LanguageBridge.Server.Reply

/-!
# Results for the editor

What the editor is given for a request: suggestions, a hover or signatures, with places in its own
coordinates and every piece of documentation as markdown.
-/

namespace LanguageBridge.Editor

open Json (Decoder Fields)
open Server (ParameterLabel)

/-- A block of markdown. -/
structure Markdown where
  value : String
  deriving DecidableEq, Repr, Inhabited

namespace Markdown

/-- The written form of a block. -/
def toJson (m : Markdown) : Json := .object [("value", .text m.value)]

/-- Reads a block. -/
def decoder : Decoder Markdown :=
  Decoder.record "MarkdownString" (Markdown.mk <$> Fields.required "value" Decoder.text)

end Markdown

/-! ## Completion -/

/-- A snippet that is offered beside the suggestions of the server. -/
structure Snippet where
  label : String
  insertText : String
  documentation : Option String
  deriving DecidableEq, Repr, Inhabited

namespace Snippet

/-- The written form of a snippet. -/
def toJson (s : Snippet) : Json :=
  .object (("label", .text s.label) :: ("insertText", .text s.insertText)
    :: Json.field? "documentation" (s.documentation.map .text))

/-- Reads a snippet. -/
def decoder : Decoder Snippet :=
  Decoder.record "Snippet"
    (Snippet.mk <$> Fields.required "label" Decoder.text
      <*> Fields.required "insertText" Decoder.text
      <*> Fields.withDefault "documentation" (Decoder.optional Decoder.text) none)

end Snippet

/-- One suggestion. -/
structure Suggestion where
  label : String
  kind : Option UInt32
  insertText : String
  insertAsSnippet : Bool
  detail : Option String
  documentation : Option Markdown
  sortText : Option String
  range : Range
  deriving DecidableEq, Repr, Inhabited

namespace Suggestion

/-- The written form of a suggestion. -/
def toJson (s : Suggestion) : Json :=
  .object (("label", .text s.label)
    :: Json.field? "kind" (s.kind.map fun n => .nat n.toNat)
    ++ ("insertText", .text s.insertText)
    :: ("insertAsSnippet", .bool s.insertAsSnippet)
    :: Json.field? "detail" (s.detail.map .text)
    ++ Json.field? "documentation" (s.documentation.map Markdown.toJson)
    ++ Json.field? "sortText" (s.sortText.map .text)
    ++ [("range", s.range.toJson)])

/-- Reads a suggestion. -/
def decoder : Decoder Suggestion :=
  Decoder.record "CompletionSuggestion"
    (Suggestion.mk <$> Fields.required "label" Decoder.text
      <*> Fields.optional "kind" Decoder.word32
      <*> Fields.required "insertText" Decoder.text
      <*> Fields.withDefault "insertAsSnippet" Decoder.bool false
      <*> Fields.optional "detail" Decoder.text
      <*> Fields.optional "documentation" Markdown.decoder
      <*> Fields.optional "sortText" Decoder.text
      <*> Fields.required "range" Range.decoder)

end Suggestion

/-- The suggestions at a place. -/
structure Suggestions where
  suggestions : List Suggestion
  deriving DecidableEq, Repr, Inhabited

namespace Suggestions

/-- No suggestions. -/
def none : Suggestions := ⟨[]⟩

/-- The written form of a list of suggestions. -/
def toJson (s : Suggestions) : Json :=
  .object [("suggestions", .list (s.suggestions.map Suggestion.toJson))]

/-- Reads a list of suggestions. -/
def decoder : Decoder Suggestions :=
  Decoder.record "CompletionList"
    (Suggestions.mk <$> Fields.required "suggestions" (Decoder.list Suggestion.decoder))

end Suggestions

/-! ## Hover -/

/-- What is shown about a place. -/
structure Hover where
  contents : List Markdown
  range : Option Range
  deriving DecidableEq, Repr, Inhabited

namespace Hover

/-- The written form of a hover. -/
def toJson (h : Hover) : Json :=
  .object (("contents", .list (h.contents.map Markdown.toJson))
    :: Json.field? "range" (h.range.map Range.toJson))

/-- Reads a hover. -/
def decoder : Decoder Hover :=
  Decoder.record "HoverResult"
    (Hover.mk <$> Fields.required "contents" (Decoder.list Markdown.decoder)
      <*> Fields.optional "range" Range.decoder)

end Hover

/-! ## Signature help -/

/-- A parameter of a signature. -/
structure Parameter where
  label : ParameterLabel
  documentation : Option Markdown
  deriving DecidableEq, Repr, Inhabited

namespace Parameter

/-- The written form of a parameter. -/
def toJson (p : Parameter) : Json :=
  .object (("label", p.label.toJson)
    :: Json.field? "documentation" (p.documentation.map Markdown.toJson))

/-- Reads a parameter. -/
def decoder : Decoder Parameter :=
  Decoder.record "ParameterView"
    (Parameter.mk <$> Fields.required "label" ParameterLabel.decoder
      <*> Fields.optional "documentation" Markdown.decoder)

end Parameter

/-- A signature of a function. -/
structure Signature where
  label : String
  documentation : Option Markdown
  parameters : List Parameter
  deriving DecidableEq, Repr, Inhabited

namespace Signature

/-- The written form of a signature. -/
def toJson (s : Signature) : Json :=
  .object (("label", .text s.label)
    :: Json.field? "documentation" (s.documentation.map Markdown.toJson)
    ++ [("parameters", .list (s.parameters.map Parameter.toJson))])

/-- Reads a signature. -/
def decoder : Decoder Signature :=
  Decoder.record "SignatureView"
    (Signature.mk <$> Fields.required "label" Decoder.text
      <*> Fields.optional "documentation" Markdown.decoder
      <*> Fields.required "parameters" (Decoder.list Parameter.decoder))

end Signature

/-- The signatures of the function that is being called. -/
structure SignatureHelp where
  signatures : List Signature
  activeSignature : UInt32
  activeParameter : UInt32
  deriving DecidableEq, Repr, Inhabited

namespace SignatureHelp

/-- No signatures. -/
def none : SignatureHelp := ⟨[], 0, 0⟩

/-- The written form of signature help. -/
def toJson (h : SignatureHelp) : Json :=
  .object [("signatures", .list (h.signatures.map Signature.toJson)),
    ("activeSignature", .nat h.activeSignature.toNat),
    ("activeParameter", .nat h.activeParameter.toNat)]

/-- Reads signature help. -/
def decoder : Decoder SignatureHelp :=
  Decoder.record "SignatureHelpResult"
    (SignatureHelp.mk <$> Fields.required "signatures" (Decoder.list Signature.decoder)
      <*> Fields.required "activeSignature" Decoder.word32
      <*> Fields.required "activeParameter" Decoder.word32)

end SignatureHelp
end LanguageBridge.Editor
