import LanguageBridge.Json.Decoder

/-!
# Server positions

The server counts lines and characters from zero.
-/

namespace LanguageBridge.Server

open Json (Decoder Fields)

/-- A place in the text that the server sees. -/
structure Position where
  line : UInt32
  character : UInt32
  deriving DecidableEq, Repr, Inhabited

/-- A stretch of the text that the server sees. -/
structure Range where
  start : Position
  stop : Position
  deriving DecidableEq, Repr, Inhabited

namespace Position

/-- The written form of a position. -/
def toJson (p : Position) : Json :=
  .object [("line", .nat p.line.toNat), ("character", .nat p.character.toNat)]

/-- Reads a position. -/
def decoder : Decoder Position :=
  Decoder.record "Position"
    (Position.mk <$> Fields.required "line" Decoder.word32
      <*> Fields.required "character" Decoder.word32)

end Position

namespace Range

/-- The written form of a range. -/
def toJson (r : Range) : Json := .object [("start", r.start.toJson), ("end", r.stop.toJson)]

/-- Reads a range. -/
def decoder : Decoder Range :=
  Decoder.record "Range"
    (Range.mk <$> Fields.required "start" Position.decoder
      <*> Fields.required "end" Position.decoder)

end Range
end LanguageBridge.Server
