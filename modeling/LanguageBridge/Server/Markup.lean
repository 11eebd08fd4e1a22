import LanguageBridge.Json.Decoder
import LanguageBridge.Text.Blank

/-!
# Documentation and hover contents

Servers write documentation and hover contents in several shapes.  Each shape is one alternative,
and a value is taken for the first alternative that accepts it.  `HoverContents.blocks` reduces
all shapes to a list of markdown blocks without the blank ones.
-/

namespace LanguageBridge.Server

open Json (Decoder Fields)

/-- A text with the name of its markup. -/
structure Markup where
  kind : String
  value : String
  deriving DecidableEq, Repr, Inhabited

namespace Markup

/-- The written form of a marked-up text. -/
def toJson (m : Markup) : Json := .object [("kind", .text m.kind), ("value", .text m.value)]

/-- Reads a marked-up text. -/
def decoder : Decoder Markup :=
  Decoder.record "MarkupContent"
    (Markup.mk <$> Fields.required "kind" Decoder.text <*> Fields.required "value" Decoder.text)

end Markup

/-- Documentation: marked up, or a plain text. -/
inductive Documentation where
  | markup (m : Markup)
  | plain (s : String)
  deriving DecidableEq, Repr, Inhabited

namespace Documentation

/-- The text of a piece of documentation. -/
def value : Documentation → String
  | .markup m => m.value
  | .plain s => s

/-- The written form of a piece of documentation. -/
def toJson : Documentation → Json
  | .markup m => m.toJson
  | .plain s => .text s

/-- Reads a piece of documentation. -/
def decoder : Decoder Documentation :=
  Decoder.either "Documentation" (Decoder.map .markup Markup.decoder)
    (Decoder.map .plain Decoder.text)

end Documentation

/-- An element of a hover: code in some language, or a plain text. -/
inductive MarkedString where
  | code (language value : String)
  | plain (s : String)
  deriving DecidableEq, Repr, Inhabited

namespace MarkedString

/-- The markdown of an element: code becomes a fenced block. -/
def markdown : MarkedString → String
  | .code language value => "```" ++ language ++ "\n" ++ value ++ "\n```"
  | .plain s => s

/-- The written form of an element. -/
def toJson : MarkedString → Json
  | .code language value => .object [("language", .text language), ("value", .text value)]
  | .plain s => .text s

/-- Reads code, which has to be an object. -/
def codeDecoder : Decoder MarkedString
  | source, .object given =>
    Decoder.fieldsOnly (MarkedString.code <$> Fields.required "language" Decoder.text
      <*> Fields.required "value" Decoder.text) source given
  | _, d => .error (d.unexpected "struct variant MarkedString::Code")

/-- Reads an element. -/
def decoder : Decoder MarkedString :=
  Decoder.either "MarkedString" codeDecoder (Decoder.map .plain Decoder.text)

end MarkedString

/-- The contents of a hover. -/
inductive HoverContents where
  | markup (m : Markup)
  | many (elements : List MarkedString)
  | single (element : MarkedString)
  deriving DecidableEq, Repr, Inhabited

namespace HoverContents

/-- The markdown blocks of the contents, blank ones included. -/
def allBlocks : HoverContents → List String
  | .markup m => [m.value]
  | .many elements => elements.map MarkedString.markdown
  | .single element => [element.markdown]

/-- The markdown blocks of the contents that are not blank. -/
def blocks (c : HoverContents) : List String := c.allBlocks.filter fun b => !Text.allBlank b

/-- The written form of the contents. -/
def toJson : HoverContents → Json
  | .markup m => m.toJson
  | .many elements => .list (elements.map MarkedString.toJson)
  | .single element => element.toJson

/-- Reads the contents of a hover. -/
def decoder : Decoder HoverContents :=
  Decoder.either "HoverContents" (Decoder.map .markup Markup.decoder)
    (Decoder.either "HoverContents"
      (Decoder.map .many (Decoder.list MarkedString.decoder))
      (Decoder.map .single MarkedString.decoder))

end HoverContents
end LanguageBridge.Server
