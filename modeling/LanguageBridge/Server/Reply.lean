import LanguageBridge.Server.Markup
import LanguageBridge.Server.Position

/-!
# Replies of the server

The replies to the three feature requests.  Only what the editor is shown is kept.
-/

namespace LanguageBridge.Server

open Json (Decoder Fields)

/-! ## Hover -/

/-- What a server shows about a place. -/
structure Hover where
  contents : HoverContents
  range : Option Range
  deriving DecidableEq, Repr, Inhabited

namespace Hover

/-- The written form of a hover. -/
def toJson (h : Hover) : Json :=
  .object (("contents", h.contents.toJson) :: Json.field? "range" (h.range.map Range.toJson))

/-- Reads a hover. -/
def decoder : Decoder Hover :=
  Decoder.record "Hover"
    (Hover.mk <$> Fields.required "contents" HoverContents.decoder
      <*> Fields.optional "range" Range.decoder)

end Hover

/-! ## Completion -/

/-- A text that replaces a range. -/
structure TextEdit where
  range : Range
  newText : String
  deriving DecidableEq, Repr, Inhabited

namespace TextEdit

/-- The written form of an edit. -/
def toJson (e : TextEdit) : Json :=
  .object [("range", e.range.toJson), ("newText", .text e.newText)]

/-- Reads an edit. -/
def decoder : Decoder TextEdit :=
  Decoder.record "TextEdit"
    (TextEdit.mk <$> Fields.required "range" Range.decoder
      <*> Fields.required "newText" Decoder.text)

end TextEdit

/-- One suggestion of a server. -/
structure CompletionItem where
  label : String
  kind : Option UInt32
  detail : Option String
  documentation : Option Documentation
  insertText : Option String
  insertTextFormat : Option UInt32
  textEdit : Option TextEdit
  sortText : Option String
  deriving DecidableEq, Repr, Inhabited

namespace CompletionItem

/-- The format of a text that is inserted as a snippet. -/
def snippetFormat : UInt32 := 2

/-- The text to insert: that of an edit, else the one to insert, else the label. -/
def resolvedText (i : CompletionItem) : String :=
  match i.textEdit with
  | some edit => edit.newText
  | none => i.insertText.getD i.label

/-- Whether the text is inserted as a snippet. -/
def isSnippet (i : CompletionItem) : Bool := i.insertTextFormat == some snippetFormat

/-- The written form of a suggestion. -/
def toJson (i : CompletionItem) : Json :=
  .object (("label", .text i.label)
    :: Json.field? "kind" (i.kind.map fun n => .nat n.toNat)
    ++ Json.field? "detail" (i.detail.map .text)
    ++ Json.field? "documentation" (i.documentation.map Documentation.toJson)
    ++ Json.field? "insertText" (i.insertText.map .text)
    ++ Json.field? "insertTextFormat" (i.insertTextFormat.map fun n => .nat n.toNat)
    ++ Json.field? "textEdit" (i.textEdit.map TextEdit.toJson)
    ++ Json.field? "sortText" (i.sortText.map .text))

/-- Reads a suggestion. -/
def decoder : Decoder CompletionItem :=
  Decoder.record "CompletionItem"
    (CompletionItem.mk <$> Fields.required "label" Decoder.text
      <*> Fields.optional "kind" Decoder.word32
      <*> Fields.optional "detail" Decoder.text
      <*> Fields.optional "documentation" Documentation.decoder
      <*> Fields.optional "insertText" Decoder.text
      <*> Fields.optional "insertTextFormat" Decoder.word32
      <*> Fields.optional "textEdit" TextEdit.decoder
      <*> Fields.optional "sortText" Decoder.text)

end CompletionItem

/-- A list of suggestions that may be incomplete. -/
structure CompletionList where
  isIncomplete : Bool
  items : List CompletionItem
  deriving DecidableEq, Repr, Inhabited

namespace CompletionList

/-- The written form of a list of suggestions. -/
def toJson (l : CompletionList) : Json :=
  .object [("isIncomplete", .bool l.isIncomplete),
    ("items", .list (l.items.map CompletionItem.toJson))]

/-- Reads a list of suggestions. -/
def decoder : Decoder CompletionList :=
  Decoder.record "CompletionListReply"
    (CompletionList.mk <$> Fields.withDefault "isIncomplete" Decoder.bool false
      <*> Fields.required "items" (Decoder.list CompletionItem.decoder))

end CompletionList

/-- A completion reply: the bare suggestions, or wrapped in an object. -/
inductive CompletionReply where
  | bare (items : List CompletionItem)
  | wrapped (list : CompletionList)
  deriving DecidableEq, Repr, Inhabited

namespace CompletionReply

/-- The suggestions of a reply. -/
def items : CompletionReply → List CompletionItem
  | .bare items => items
  | .wrapped l => l.items

/-- The written form of a reply. -/
def toJson : CompletionReply → Json
  | .bare items => .list (items.map CompletionItem.toJson)
  | .wrapped l => l.toJson

/-- Reads a reply. -/
def decoder : Decoder CompletionReply :=
  Decoder.either "CompletionResponse"
    (Decoder.map .bare (Decoder.list CompletionItem.decoder))
    (Decoder.map .wrapped CompletionList.decoder)

end CompletionReply

/-! ## Signature help -/

/-- A parameter: its text, or where it stands in the label of its signature. -/
inductive ParameterLabel where
  | plain (s : String)
  | offsets (start stop : UInt32)
  deriving DecidableEq, Repr, Inhabited

namespace ParameterLabel

/-- The written form of a parameter label. -/
def toJson : ParameterLabel → Json
  | .plain s => .text s
  | .offsets start stop => .list [.nat start.toNat, .nat stop.toNat]

/-- Reads a pair of offsets. -/
def offsetsDecoder : Decoder ParameterLabel
  | source, .list [start, stop] =>
    match Decoder.word32 source start with
    | .error e => .error e
    | .ok start => (Decoder.word32 source stop).map (.offsets start)
  | _, .list ds => .error (.wrongLength ds.length "an array of length 2")
  | _, d => .error (d.unexpected "an array of length 2")

/-- Reads a parameter label. -/
def decoder : Decoder ParameterLabel :=
  Decoder.either "ParameterLabel" (Decoder.map .plain Decoder.text) offsetsDecoder

end ParameterLabel

/-- A parameter of a signature. -/
structure Parameter where
  label : ParameterLabel
  documentation : Option Documentation
  deriving DecidableEq, Repr, Inhabited

namespace Parameter

/-- The written form of a parameter. -/
def toJson (p : Parameter) : Json :=
  .object (("label", p.label.toJson)
    :: Json.field? "documentation" (p.documentation.map Documentation.toJson))

/-- Reads a parameter. -/
def decoder : Decoder Parameter :=
  Decoder.record "ParameterInformation"
    (Parameter.mk <$> Fields.required "label" ParameterLabel.decoder
      <*> Fields.optional "documentation" Documentation.decoder)

end Parameter

/-- A signature of a function. -/
structure Signature where
  label : String
  documentation : Option Documentation
  parameters : List Parameter
  deriving DecidableEq, Repr, Inhabited

namespace Signature

/-- The written form of a signature. -/
def toJson (s : Signature) : Json :=
  let parameters :=
    if s.parameters.isEmpty then none else some (Json.list (s.parameters.map Parameter.toJson))
  .object (("label", .text s.label)
    :: Json.field? "documentation" (s.documentation.map Documentation.toJson)
    ++ Json.field? "parameters" parameters)

/-- Reads a signature. -/
def decoder : Decoder Signature :=
  Decoder.record "SignatureInformation"
    (Signature.mk <$> Fields.required "label" Decoder.text
      <*> Fields.optional "documentation" Documentation.decoder
      <*> Fields.withDefault "parameters" (Decoder.list Parameter.decoder) [])

end Signature

/-- Signatures of the function that is being called. -/
structure SignatureHelp where
  signatures : List Signature
  activeSignature : Option UInt32
  activeParameter : Option UInt32
  deriving DecidableEq, Repr, Inhabited

namespace SignatureHelp

/-- The written form of signature help. -/
def toJson (h : SignatureHelp) : Json :=
  .object (("signatures", .list (h.signatures.map Signature.toJson))
    :: Json.field? "activeSignature" (h.activeSignature.map fun n => .nat n.toNat)
    ++ Json.field? "activeParameter" (h.activeParameter.map fun n => .nat n.toNat))

/-- Reads signature help. -/
def decoder : Decoder SignatureHelp :=
  Decoder.record "SignatureHelp"
    (SignatureHelp.mk <$> Fields.withDefault "signatures" (Decoder.list Signature.decoder) []
      <*> Fields.optional "activeSignature" Decoder.word32
      <*> Fields.optional "activeParameter" Decoder.word32)

end SignatureHelp
end LanguageBridge.Server
