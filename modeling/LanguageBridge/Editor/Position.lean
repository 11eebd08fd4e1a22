import LanguageBridge.Json.Decoder

/-!
# Editor positions

The editor counts lines and columns from one.  A position from the host may call its line `line`
instead of `lineNumber`.
-/

namespace LanguageBridge.Editor

open Json (Decoder Fields)

/-- A place in the visible document. -/
structure Position where
  line : UInt32
  column : UInt32
  deriving DecidableEq, Repr, Inhabited

/-- A stretch of the visible document; the end is not part of it. -/
structure Range where
  startLine : UInt32
  startColumn : UInt32
  endLine : UInt32
  endColumn : UInt32
  deriving DecidableEq, Repr, Inhabited

/-- The word in front of a position, and the columns it covers. -/
structure WordAt where
  word : String
  startColumn : UInt32
  endColumn : UInt32
  deriving DecidableEq, Repr, Inhabited

namespace Position

/-- The written form of a position. -/
def toJson (p : Position) : Json :=
  .object [("lineNumber", .nat p.line.toNat), ("column", .nat p.column.toNat)]

/-- Reads a position. -/
def decoder : Decoder Position :=
  Decoder.record "EditorPosition"
    (Position.mk <$> Fields.requiredAlso "lineNumber" ["line"] Decoder.word32
      <*> Fields.required "column" Decoder.word32)

end Position

namespace Range

/-- The written form of a range. -/
def toJson (r : Range) : Json :=
  .object [("startLineNumber", .nat r.startLine.toNat), ("startColumn", .nat r.startColumn.toNat),
    ("endLineNumber", .nat r.endLine.toNat), ("endColumn", .nat r.endColumn.toNat)]

/-- Reads a range. -/
def decoder : Decoder Range :=
  Decoder.record "EditorRange"
    (Range.mk <$> Fields.required "startLineNumber" Decoder.word32
      <*> Fields.required "startColumn" Decoder.word32
      <*> Fields.required "endLineNumber" Decoder.word32
      <*> Fields.required "endColumn" Decoder.word32)

end Range

namespace WordAt

/-- The written form of a word and its columns. -/
def toJson (w : WordAt) : Json :=
  .object [("word", .text w.word), ("startColumn", .nat w.startColumn.toNat),
    ("endColumn", .nat w.endColumn.toNat)]

/-- Reads a word and its columns. -/
def decoder : Decoder WordAt :=
  Decoder.record "WordAtPosition"
    (WordAt.mk <$> Fields.required "word" Decoder.text
      <*> Fields.required "startColumn" Decoder.word32
      <*> Fields.required "endColumn" Decoder.word32)

end WordAt
end LanguageBridge.Editor
