import LanguageBridge.Json.Decoder

/-!
# Named messages

A message is written as its name and its content, either as the fields `name` and `value` of an
object, in any order, or as a list of the two.  What the content has to be depends on the name, so
a content that comes first is put aside until the name is known.

A name is a text.  It may also be written as an object with that one field, whose value is `null`.
-/

namespace LanguageBridge.Json

/-- What may follow the name of a message. -/
structure Content (α : Type) where
  /-- Decodes a content that is there. -/
  decode : Decoder α
  /-- What a message without content stands for. -/
  ifMissing : Except Fault α

namespace Content

/-- A content that has to be there. -/
def required {α : Type} (decode : Decoder α) : Content α :=
  ⟨decode, .error (.missingField "value")⟩

/-- No content, which may be written as `null`. -/
def empty {α : Type} (variant : String) (a : α) : Content α where
  decode
    | _, .null => .ok a
    | _, d => .error (d.unexpected ("unit variant " ++ variant))
  ifMissing := .ok a

end Content

/-- A type of named messages. -/
structure Tagged (α : Type) where
  type : String
  variants : List (String × Content α)

namespace Tagged

variable {α : Type}

/-- The content that a name asks for. -/
def content (t : Tagged α) (name : String) : Except Fault (Content α) :=
  match t.variants.lookup name with
  | some c => .ok c
  | none => .error (.unknownVariant name (t.variants.map Prod.fst))

/-- What is said to be expected in place of something that is no message. -/
def expected (t : Tagged α) : String := "adjacently tagged enum " ++ t.type

/-- The name alone, written as an object with one field. -/
def contentOfObject (t : Tagged α) (source : Source) :
    List (Option String × Draft) → Except Fault (Content α)
  | [] =>
    .error (if source = .text then .malformed else .wrongValue .map "map with a single key")
  | (none, _) :: _ => .error .malformed
  | (some name, d) :: rest =>
    if source ≠ .text ∧ rest ≠ [] then .error (.wrongValue .map "map with a single key")
    else
      match t.content name, d with
      | .error e, _ => .error e
      | .ok c, .null => if rest = [] then .ok c else .error .malformed
      | .ok _, d => .error (d.unexpected "unit")

/-- The content that a written name asks for. -/
def contentOf (t : Tagged α) (source : Source) : Draft → Except Fault (Content α)
  | .text (some name) => t.content name
  | .object fields => t.contentOfObject source fields
  | d => .error (if source = .text then .malformed else d.unexpected "string or map")

/-- The fields that count: those called `name` or `value`, the former marked, and those whose own
name stands for nothing. -/
def relevant : List (Option String × Draft) → List (Option Bool × Draft)
  | [] => []
  | (none, d) :: rest => (none, d) :: relevant rest
  | (some key, d) :: rest =>
    if key = "name" then (some true, d) :: relevant rest
    else if key = "value" then (some false, d) :: relevant rest
    else relevant rest

/-- A result, unless one of the two fields comes again. -/
def unlessRepeated (result : Except Fault α) (rest : List (Option Bool × Draft)) :
    Except Fault α :=
  match result, rest with
  | .error e, _ => .error e
  | .ok a, [] => .ok a
  | .ok _, (some true, _) :: _ => .error (.duplicateField "name")
  | .ok _, (some false, _) :: _ => .error (.duplicateField "value")
  | .ok _, (none, _) :: _ => .error .malformed

/-- Whether a part of a text may be put aside: it must not be nested too deeply, nor hold
anything that stands for nothing. -/
def mayWait (source : Source) (d : Draft) : Bool :=
  source != .text || (d.resolve? (maxDepth - 1)).isSome

/-- Where a part that was put aside comes from. -/
def aside : Source → Source
  | .text => .buffer
  | source => source

/-- A message given by an object. -/
def ofObject (t : Tagged α) (source : Source) (fields : List (Option String × Draft)) :
    Except Fault α :=
  match relevant fields with
  | [] => .error (.missingField "name")
  | (none, _) :: _ => .error .malformed
  | (some true, name) :: rest =>
    match t.contentOf source name with
    | .error e => .error e
    | .ok c =>
      match rest with
      | [] => c.ifMissing
      | (some false, d) :: rest => unlessRepeated (c.decode source d) rest
      | (some true, _) :: _ => .error (.duplicateField "name")
      | (none, _) :: _ => .error .malformed
  | (some false, d) :: rest =>
    if !mayWait source d then .error .malformed
    else
      match rest with
      | [] => .error (.missingField "name")
      | (some true, name) :: rest =>
        match t.contentOf source name with
        | .error e => .error e
        | .ok c => unlessRepeated (c.decode (aside source) d) rest
      | (some false, _) :: _ => .error (.duplicateField "value")
      | (none, _) :: _ => .error .malformed

/-- A message given by a list. -/
def ofList (t : Tagged α) (source : Source) : List Draft → Except Fault α
  | [] => .error (.wrongLength 0 t.expected)
  | name :: rest =>
    match t.contentOf source name with
    | .error e => .error e
    | .ok c =>
      match rest with
      | [] => .error (.wrongLength 1 t.expected)
      | [d] => c.decode source d
      | d :: more =>
        match c.decode source d with
        | .error e => .error e
        | .ok _ => .error (Decoder.tooLong source (more.length + 2) 2)

/-- Reads a message. -/
def decoder (t : Tagged α) : Decoder α
  | source, .object fields => t.ofObject source fields
  | source, .list ds => t.ofList source ds
  | _, d => .error (d.unexpected t.expected)

end Tagged

/-- The written form of a message with a content. -/
def named (name : String) (value : Json) : Json := .object [("name", .text name), ("value", value)]

/-- The written form of a message without content. -/
def nameOnly (name : String) : Json := .object [("name", .text name)]

/-- Why a text does not decode. -/
inductive TextFault where
  /-- The text stops too early. -/
  | ended
  /-- The text is no JSON. -/
  | malformed
  /-- The text is JSON of another shape. -/
  | shape (fault : Fault)
  deriving DecidableEq, Repr

/-- The wording of the reason why a text does not decode. -/
def TextFault.message : TextFault → String
  | .ended => "<eof>"
  | .malformed => "<syntax>"
  | .shape fault => fault.message

/-- A text decoded while it is read; what follows the value may only be blank. -/
def decodeText {α : Type} (decode : Decoder α) (cs : List Char) : Except TextFault α :=
  match readDraft cs with
  | .error .ended => .error .ended
  | .error .malformed => .error .malformed
  | .ok (d, rest) =>
    match decode .text d with
    | .error .malformed => .error .malformed
    | .error fault => .error (.shape fault)
    | .ok a => if (skipSpace rest).isEmpty then .ok a else .error .malformed

end LanguageBridge.Json
