import LanguageBridge.Json.Fault

/-!
# Decoders

A decoder turns a draft into a value of some type or says why it cannot.  Where a draft comes from
shows in a few faults only, so decoders take that as a parameter.

A record type is decoded from an object, or from a list of its fields in the order of their
declaration.  Its decoder is put together from decoders of single fields: `Fields` says how to
take the fields out of an object and out of a list.  Each field is looked for on its own, and of
several faults the one that comes first in the text counts; a field that is missing counts as a
fault behind the last one present.  `Fields` is an applicative functor, so a record reads

    Position.mk <$> Fields.required "line" word32 <*> Fields.required "character" word32
-/

namespace LanguageBridge.Json

/-- Where a draft comes from. -/
inductive Source where
  /-- A text that is decoded while it is read. -/
  | text
  /-- A value that has been read completely. -/
  | value
  /-- A part of a text that was put aside until its type was known. -/
  | buffer
  deriving DecidableEq, Repr

/-- A way to decode drafts into values of a type. -/
abbrev Decoder (α : Type) := Source → Draft → Except Fault α

namespace Decoder

/-- A text. -/
def text : Decoder String
  | _, .text (some s) => .ok s
  | _, d => .error (d.unexpected "a string")

/-- A truth value. -/
def bool : Decoder Bool
  | _, .bool b => .ok b
  | _, d => .error (d.unexpected "a boolean")

/-- A whole number of thirty-two bits. -/
def word32 : Decoder UInt32
  | _, .number (some (.natural n)) =>
    if n < UInt32.size then .ok n.toUInt32 else .error (.wrongValue (.integer n) "u32")
  | _, .number (some (.negative n)) => .error (.wrongValue (.integer (-n)) "u32")
  | _, d => .error (d.unexpected "u32")

/-- A whole number of sixty-four bits. -/
def word64 : Decoder UInt64
  | _, .number (some (.natural n)) =>
    if n < UInt64.size then .ok n.toUInt64 else .error (.wrongValue (.integer n) "u64")
  | _, .number (some (.negative n)) => .error (.wrongValue (.integer (-n)) "u64")
  | _, d => .error (d.unexpected "u64")

/-- `null`, or what another decoder accepts. -/
def optional {α : Type} (decode : Decoder α) : Decoder (Option α)
  | _, .null => .ok none
  | source, d => (decode source d).map some

/-- The items of a list, decoded in order. -/
def items {α : Type} (decode : Decoder α) (source : Source) :
    List Draft → Except Fault (List α)
  | [] => .ok []
  | d :: rest =>
    match decode source d with
    | .error e => .error e
    | .ok a => (items decode source rest).map (a :: ·)

/-- A list of what another decoder accepts. -/
def list {α : Type} (decode : Decoder α) : Decoder (List α)
  | source, .list ds => items decode source ds
  | _, d => .error (d.unexpected "a sequence")

/-- The first of two alternatives that accepts, or else a fault that names only the type. -/
def either {α : Type} (type : String) (first second : Decoder α) : Decoder α := fun source d =>
  match first source d with
  | .ok a => .ok a
  | .error _ =>
    match second source d with
    | .ok a => .ok a
    | .error _ => .error (.noVariant type)

/-- A decoder followed by a function. -/
def map {α β : Type} (f : α → β) (decode : Decoder α) : Decoder β := fun source d =>
  (decode source d).map f

/-- A value that has been read completely, decoded. -/
def ofValue {α : Type} (decode : Decoder α) (v : Json) : Except Fault α :=
  decode .value v.draft

end Decoder

/-! ## Records -/

/-- A result, or a fault and the place where it is noticed. -/
abbrev Placed (α : Type) := Except (Nat × Fault) α

/-- Both results, or of two faults the one noticed first. -/
def Placed.both {α β γ : Type} (f : α → β → γ) : Placed α → Placed β → Placed γ
  | .ok a, .ok b => .ok (f a b)
  | .error e, .ok _ => .error e
  | .ok _, .error e => .error e
  | .error e, .error e' => .error (if e'.1 < e.1 then e' else e)

/-- A way to take the fields of a record out of an object and out of a list. -/
structure Fields (α : Type) where
  /-- The number of fields. -/
  count : Nat
  /-- The record given by the fields of an object. -/
  ofFields : Source → List (Option String × Draft) → Placed α
  /-- The record given by a list, of which the first item is number `start`.  `expected` is the
  wording of what a list that is too short should have been. -/
  ofItems : (expected : String) → Source → (start : Nat) → List Draft → Placed α

namespace Fields

instance : Functor Fields where
  map f r := {
    count := r.count
    ofFields := fun source fields => (r.ofFields source fields).map f
    ofItems := fun expected source start ds => (r.ofItems expected source start ds).map f }

instance : Pure Fields where
  pure a := {
    count := 0
    ofFields := fun _ _ => .ok a
    ofItems := fun _ _ _ _ => .ok a }

instance : Seq Fields where
  seq rf rx :=
    let ra := rx ()
    { count := rf.count + ra.count
      ofFields := fun source fields =>
        Placed.both (fun f a => f a) (rf.ofFields source fields) (ra.ofFields source fields)
      ofItems := fun expected source start ds =>
        Placed.both (fun f a => f a) (rf.ofItems expected source start ds)
          (ra.ofItems expected source (start + rf.count) (ds.drop rf.count)) }

/-- The places and values of the fields that go by one of the names. -/
def occurrences (names : List String) :
    Nat → List (Option String × Draft) → List (Nat × Draft)
  | _, [] => []
  | i, (key, d) :: rest =>
    match key with
    | some k =>
      if names.contains k then (i, d) :: occurrences names (i + 1) rest
      else occurrences names (i + 1) rest
    | none => occurrences names (i + 1) rest

/-- One field: what decodes it, and what counts when an object or a list has none. -/
def field {α : Type} (name : String) (aliases : List String) (decode : Decoder α)
    (ifMissing : Except Fault α) (ifShort : Option α) : Fields α where
  count := 1
  ofFields source fields :=
    match occurrences (name :: aliases) 0 fields with
    | [] => ifMissing.mapError (fields.length, ·)
    | (i, d) :: more =>
      match decode source d, more with
      | .error e, _ => .error (i, e)
      | .ok a, [] => .ok a
      | .ok _, (j, _) :: _ => .error (j, .duplicateField name)
  ofItems expected source start ds :=
    match ds with
    | d :: _ => (decode source d).mapError (start, ·)
    | [] =>
      match ifShort with
      | some a => .ok a
      | none => .error (start, .wrongLength start expected)

/-- A field that has to be there. -/
def required {α : Type} (name : String) (decode : Decoder α) : Fields α :=
  field name [] decode (.error (.missingField name)) none

/-- A field that has to be there and may go by other names too. -/
def requiredAlso {α : Type} (name : String) (aliases : List String) (decode : Decoder α) :
    Fields α :=
  field name aliases decode (.error (.missingField name)) none

/-- A field that may be missing or `null`; a list has to have an item for it. -/
def optional {α : Type} (name : String) (decode : Decoder α) : Fields (Option α) :=
  field name [] (Decoder.optional decode) (.ok none) none

/-- A field with a value of its own when it is missing, also at the end of a list. -/
def withDefault {α : Type} (name : String) (decode : Decoder α) (default : α) : Fields α :=
  field name [] decode (.ok default) (some default)

end Fields

namespace Decoder

/-- The place of the first field whose name stands for nothing. -/
def brokenKey : Nat → List (Option String × Draft) → Option Nat
  | _, [] => none
  | i, (none, _) :: _ => some i
  | i, (some _, _) :: rest => brokenKey (i + 1) rest

/-- The fault of a list that goes on behind the last field. -/
def tooLong (source : Source) (length count : Nat) : Fault :=
  match source with
  | .text => .malformed
  | .value => .wrongLength length "fewer elements in array"
  | .buffer =>
    let elements := if count = 1 then " element" else " elements"
    .wrongLength length (Digits.render count ++ elements ++ " in sequence")

/-- What a list for a record should have been. -/
def listExpected (name : String) (count : Nat) : String :=
  let elements := if count = 1 then " element" else " elements"
  "struct " ++ name ++ " with " ++ Digits.render count ++ elements

/-- A record given by an object only. -/
def fieldsOnly {α : Type} (fields : Fields α) (source : Source)
    (given : List (Option String × Draft)) : Except Fault α :=
  let result := fields.ofFields source given
  let checked : Placed α :=
    match brokenKey 0 given with
    | none => result
    | some i => Placed.both (fun _ a => a) (.error (i, .malformed) : Placed Unit) result
  checked.mapError Prod.snd

/-- A record, given by an object or by a list of its fields. -/
def record {α : Type} (name : String) (fields : Fields α) : Decoder α
  | source, .object given => fieldsOnly fields source given
  | source, .list ds =>
    match fields.ofItems (listExpected name fields.count) source 0 ds with
    | .error e => .error e.2
    | .ok a =>
      if fields.count < ds.length then .error (tooLong source ds.length fields.count) else .ok a
  | _, d => .error (d.unexpected ("struct " ++ name))

end Decoder
end LanguageBridge.Json
