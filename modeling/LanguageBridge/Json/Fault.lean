import LanguageBridge.Json.Draft
import LanguageBridge.Text.Quoted

/-!
# Why a value does not decode

A decoder expects a value of some shape.  A `Fault` is the reason why a value has not got it, and
`Fault.message` its wording.  The wording quotes what was found, so it may hold any text that the
other side has sent.
-/

namespace LanguageBridge.Json

/-- What stands where something else is expected. -/
inductive Found where
  | null
  | boolean (b : Bool)
  | integer (n : Int)
  | floating (d : Double)
  | string (s : String)
  | sequence
  | map
  deriving DecidableEq, Repr

/-- Why a value does not decode. -/
inductive Fault where
  /-- The text breaks the grammar at a place that matters. -/
  | malformed
  /-- A value of another kind stands here. -/
  | wrongType (found : Found) (expected : String)
  /-- A value of the right kind stands here, but it is out of range. -/
  | wrongValue (found : Found) (expected : String)
  | missingField (name : String)
  | duplicateField (name : String)
  /-- A list has `count` items, or its first missing item is number `count`. -/
  | wrongLength (count : Nat) (expected : String)
  | unknownVariant (name : String) (known : List String)
  /-- None of the alternatives of a type decodes. -/
  | noVariant (type : String)
  deriving DecidableEq, Repr

/-- The wording of what was found. -/
def Found.message : Found → String
  | .null => "null"
  | .boolean true => "boolean `true`"
  | .boolean false => "boolean `false`"
  | .integer n =>
    let sign := if n < 0 then "-" else ""
    "integer `" ++ sign ++ Digits.render n.natAbs ++ "`"
  | .floating d => "floating point `" ++ String.ofList d.print ++ "`"
  | .string s => "string " ++ Text.quote s
  | .sequence => "sequence"
  | .map => "map"

/-- Names between grave accents, separated by commas. -/
def listNames (names : List String) : String :=
  ", ".intercalate (names.map fun n => "`" ++ n ++ "`")

/-- The wording of a fault. -/
def Fault.message : Fault → String
  | .malformed => "malformed text"
  | .wrongType found expected => "invalid type: " ++ found.message ++ ", expected " ++ expected
  | .wrongValue found expected => "invalid value: " ++ found.message ++ ", expected " ++ expected
  | .missingField name => "missing field `" ++ name ++ "`"
  | .duplicateField name => "duplicate field `" ++ name ++ "`"
  | .wrongLength count expected =>
    "invalid length " ++ Digits.render count ++ ", expected " ++ expected
  | .unknownVariant name known =>
    "unknown variant `" ++ name ++ "`, expected one of " ++ listNames known
  | .noVariant type => "data did not match any variant of untagged enum " ++ type

/-- What a number is found to be. -/
def Number.found : Number → Found
  | .natural n => .integer n
  | .negative n => .integer (-n)
  | .double d => .floating d

/-- The fault of meeting a draft where something else is expected.  A draft that stands for
nothing breaks the grammar. -/
def Draft.unexpected (d : Draft) (expected : String) : Fault :=
  match d with
  | .null => .wrongType .null expected
  | .bool b => .wrongType (.boolean b) expected
  | .number (some n) => .wrongType n.found expected
  | .text (some s) => .wrongType (.string s) expected
  | .number none => .malformed
  | .text none => .malformed
  | .list _ => .wrongType .sequence expected
  | .object _ => .wrongType .map expected

end LanguageBridge.Json
