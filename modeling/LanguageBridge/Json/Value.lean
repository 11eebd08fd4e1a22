import LanguageBridge.Binary64.Decimal

/-!
# JSON values

A JSON value as the bridge keeps it.  Numbers remember how they were written: a whole number that
fits sixty-four bits keeps its value exactly, any other number is the double nearest to it.
Fields of an object keep the order in which they were given; a value read from a frame has them
in ascending order and without repetition.
-/

namespace LanguageBridge

/-- A number of a JSON text. -/
inductive Json.Number where
  /-- A whole number that is not negative. -/
  | natural (n : Nat)
  /-- The whole number `-n`, with `n` positive. -/
  | negative (n : Nat)
  /-- Any other number. -/
  | double (d : Double)
  deriving DecidableEq, Repr, Inhabited

/-- A JSON value. -/
inductive Json where
  | null
  | bool (b : Bool)
  | number (n : Json.Number)
  | text (s : String)
  | list (items : List Json)
  | object (fields : List (String × Json))
  deriving Inhabited

namespace Json

/-- A whole number. -/
def nat (n : Nat) : Json := .number (.natural n)

/-- The value of a field: `none` when there is none or the value is no object. -/
def get? (key : String) : Json → Option Json
  | .object fields => fields.lookup key
  | _ => none

/-- The text of a value that is a text. -/
def text? : Json → Option String
  | .text s => some s
  | _ => none

/-- The items of a value that is a list. -/
def list? : Json → Option (List Json)
  | .list items => some items
  | _ => none

/-- Whether a value is `null`. -/
def isNull : Json → Bool
  | .null => true
  | _ => false

/-- The least magnitude beyond the signed words of sixty-four bits: `2^63`. -/
def signedBound : Nat := 9223372036854775808

/-- A whole number within the signed sixty-four bits. -/
def int64? : Json → Option Int
  | .number (.natural n) => if n < signedBound then some n else none
  | .number (.negative n) => some (-n)
  | _ => none

/-- A field put in its place among fields in ascending order, replacing one of the same name. -/
def insertField (key : String) (value : Json) : List (String × Json) → List (String × Json)
  | [] => [(key, value)]
  | (k, v) :: rest =>
    if key < k then (key, value) :: (k, v) :: rest
    else if key = k then (key, value) :: rest
    else (k, v) :: insertField key value rest

/-- Fields in ascending order; of several with one name the last one counts. -/
def sortFields (fields : List (String × Json)) : List (String × Json) :=
  fields.foldl (fun sorted (k, v) => insertField k v sorted) []

mutual

/-- A value with the fields of all its objects in ascending order. -/
def canonical : Json → Json
  | .list items => .list (canonicalItems items)
  | .object fields => .object (sortFields (canonicalFields fields))
  | v => v

/-- The items of a list, each in canonical form. -/
def canonicalItems : List Json → List Json
  | [] => []
  | v :: rest => canonical v :: canonicalItems rest

/-- The fields of an object in their order, each value in canonical form. -/
def canonicalFields : List (String × Json) → List (String × Json)
  | [] => []
  | (k, v) :: rest => (k, canonical v) :: canonicalFields rest

end

/-- A field that is left out when there is no value for it. -/
def field? (key : String) (value : Option Json) : List (String × Json) :=
  match value with
  | some v => [(key, v)]
  | none => []

end Json
end LanguageBridge
