import LanguageBridge.Json.Value

/-!
# Reading JSON

Reading happens in two stages.  The first one checks the grammar and yields a *draft*: the shape
of the value, in which a text or a number that keeps the grammar but stands for nothing (half of a
surrogate pair, a number beyond the doubles) is left open.  The second one, `Draft.resolve?`,
turns a draft into a value and fails on anything left open and on nesting that is too deep.  The
stages are apart because a decoder may skip a part of a text, and what is skipped only has to keep
the grammar.

The grammar is that of RFC 8259 with nothing added: no byte order mark, no comment, no blank but
space, tab, line feed and carriage return.  A text that breaks it is told apart from one that
stops too early.
-/

namespace LanguageBridge.Json

/-- The shape of a value whose texts and numbers may stand for nothing. -/
inductive Draft where
  | null
  | bool (b : Bool)
  | number (n : Option Number)
  | text (s : Option String)
  | list (items : List Draft)
  | object (fields : List (Option String × Draft))
  deriving Inhabited

/-- Why a text is no JSON. -/
inductive Flaw where
  /-- It stops where more has to come. -/
  | ended
  /-- It goes on with something that cannot stand there. -/
  | malformed
  deriving DecidableEq, Repr

/-- Whether a character may stand between the parts of a JSON text. -/
def isSpace (c : Char) : Bool := c = ' ' || c = '\t' || c = '\n' || c = '\r'

/-- What follows the blanks at the start. -/
def skipSpace (cs : List Char) : List Char := cs.dropWhile isSpace

/-! ## Texts -/

/-- A piece of a text: a character, or sixteen bits given in hexadecimal. -/
inductive TextUnit where
  | char (c : Char)
  | code (n : Nat)

/-- The value of a hexadecimal digit. -/
def hexValue? (c : Char) : Option Nat :=
  if '0' ≤ c ∧ c ≤ '9' then some (c.toNat - 48)
  else if 'a' ≤ c ∧ c ≤ 'f' then some (c.toNat - 87)
  else if 'A' ≤ c ∧ c ≤ 'F' then some (c.toNat - 55)
  else none

/-- The number that four hexadecimal digits stand for. -/
def hexCode? (a b c d : Char) : Option Nat := do
  let a ← hexValue? a
  let b ← hexValue? b
  let c ← hexValue? c
  let d ← hexValue? d
  return ((a * 16 + b) * 16 + c) * 16 + d

/-- The character that a backslash and one letter stand for. -/
def shortEscape? : Char → Option Char
  | '"' => some '"'
  | '\\' => some '\\'
  | '/' => some '/'
  | 'b' => some '\x08'
  | 'f' => some '\x0c'
  | 'n' => some '\n'
  | 'r' => some '\r'
  | 't' => some '\t'
  | _ => none

/-- Whether a text is too short for the four digits of an escape, in bytes of its UTF-8 form. -/
def shorterThanEscape (cs : List Char) : Bool :=
  (String.ofList (cs.take 4)).utf8ByteSize < 4

/-- The pieces of a text up to its closing quote, and what follows. -/
def readUnits : List Char → Except Flaw (List TextUnit × List Char)
  | [] => .error .ended
  | '"' :: rest => .ok ([], rest)
  | '\\' :: [] => .error .ended
  | '\\' :: 'u' :: a :: b :: c :: d :: rest =>
    match hexCode? a b c d with
    | some n => (readUnits rest).map fun (units, after) => (.code n :: units, after)
    | none => .error .malformed
  | '\\' :: c :: rest =>
    if c = 'u' then
      .error (if shorterThanEscape rest then .ended else .malformed)
    else
      match shortEscape? c with
      | some e => (readUnits rest).map fun (units, after) => (.char e :: units, after)
      | none => .error .malformed
  | c :: rest =>
    if c.toNat < 0x20 then .error .malformed
    else (readUnits rest).map fun (units, after) => (.char c :: units, after)

/-- The characters that pieces of a text stand for; none if half of a surrogate pair is among
them. -/
def joinUnits : List TextUnit → Option (List Char)
  | [] => some []
  | .char c :: rest => (joinUnits rest).map (c :: ·)
  | .code high :: .code low :: rest =>
    if 0xD800 ≤ high ∧ high < 0xDC00 then
      if 0xDC00 ≤ low ∧ low < 0xE000 then
        (joinUnits rest).map
          (Char.ofNat (0x10000 + (high - 0xD800) * 0x400 + (low - 0xDC00)) :: ·)
      else none
    else if 0xDC00 ≤ high ∧ high < 0xE000 then none
    else (joinUnits (.code low :: rest)).map (Char.ofNat high :: ·)
  | .code n :: rest =>
    if 0xD800 ≤ n ∧ n < 0xE000 then none else (joinUnits rest).map (Char.ofNat n :: ·)

/-- The text up to its closing quote, and what follows. -/
def readText (cs : List Char) : Except Flaw (Option String × List Char) :=
  (readUnits cs).map fun (units, after) => ((joinUnits units).map String.ofList, after)

/-! ## Numbers -/

/-- The greatest whole number of sixty-four bits. -/
def maxNatural : Nat := UInt64.size - 1

/-- Digits appended to a significand as long as it stays within sixty-four bits: the significand,
the number of digits taken and the digits that no longer fit. -/
def significand (start : Nat) : List Char → Nat × Nat × List Char
  | [] => (start, 0, [])
  | c :: rest =>
    let next := start * 10 + Digits.toDigit c
    if maxNatural < next then (start, 0, c :: rest)
    else
      let (m, taken, left) := significand next rest
      (m, taken + 1, left)

/-- The power of ten that a table of doubles still holds. -/
def maxPower : Nat := 308

/-- A magnitude scaled by a power of ten: one rounded operation for every 308 places.  `none` is
a magnitude beyond the doubles. -/
def scaleByTen (units : Nat) (exponent : Int) : Option Nat :=
  if units = 0 then some 0
  else if 0 ≤ exponent then
    if maxPower < exponent.toNat then none
    else
      let scaled := Binary64.mul units (Binary64.ofNat (Nat.pow 10 exponent.toNat))
      if Binary64.overflow ≤ scaled then none else some scaled
  else down units (-exponent).toNat 4
where
  /-- Division by `10 ^ places`; after four divisions by `10 ^ 308` nothing is left. -/
  down (units places : Nat) : Nat → Option Nat
    | 0 => some 0
    | steps + 1 =>
      if places ≤ maxPower then some (Binary64.div units (Binary64.ofNat (Nat.pow 10 places)))
      else
        down (Binary64.div units (Binary64.ofNat (Nat.pow 10 maxPower))) (places - maxPower) steps

/-- The double written with these digits before and after the point and this exponent; digits
beyond the sixty-four bits of a significand only count by their place. -/
def decimal? (negative : Bool) (whole fraction : List Char) (exponent : Int) : Option Double :=
  let (m, _, left) := significand 0 whole
  let (m, taken, _) := significand m fraction
  let power := exponent + left.length - taken
  (scaleByTen (Binary64.ofNat m) power).map (⟨negative, ·⟩)

/-- A number by its digits: whole numbers that fit stay whole, all others become doubles. -/
def number? (negative : Bool) (whole : List Char) (fraction : List Char) (exponent : Option Int) :
    Option Number :=
  if fraction.isEmpty && exponent.isNone then
    let n := Digits.value whole
    if negative then
      if 0 < n ∧ n ≤ signedBound then some (.negative n)
      else (decimal? true whole [] 0).map .double
    else if n ≤ maxNatural then some (.natural n)
    else (decimal? false whole [] 0).map .double
  else (decimal? negative whole fraction (exponent.getD 0)).map .double

/-- At least one digit, and what follows. -/
def readDigits (cs : List Char) : Except Flaw (List Char × List Char) :=
  match cs with
  | [] => .error .ended
  | c :: _ =>
    if Digits.isDigit c then .ok (cs.takeWhile Digits.isDigit, cs.dropWhile Digits.isDigit)
    else .error .malformed

/-- The digits before the point: a leading zero stands alone. -/
def readWhole (cs : List Char) : Except Flaw (List Char × List Char) := do
  let (whole, rest) ← readDigits cs
  match whole with
  | '0' :: _ :: _ => .error .malformed
  | _ => .ok (whole, rest)

/-- The digits after a point, if there is one. -/
def readFraction : List Char → Except Flaw (List Char × List Char)
  | '.' :: rest => readDigits rest
  | cs => .ok ([], cs)

/-- The digits of an exponent after its sign. -/
def readExponentDigits (negative : Bool) (cs : List Char) :
    Except Flaw (Option Int × List Char) := do
  let (ds, rest) ← readDigits cs
  let n : Int := Digits.value ds
  return (some (if negative then -n else n), rest)

/-- The exponent, if there is one. -/
def readExponent : List Char → Except Flaw (Option Int × List Char)
  | c :: rest =>
    if c = 'e' ∨ c = 'E' then
      match rest with
      | '+' :: rest => readExponentDigits false rest
      | '-' :: rest => readExponentDigits true rest
      | rest => readExponentDigits false rest
    else .ok (none, c :: rest)
  | [] => .ok (none, [])

/-- A number after its sign. -/
def readNumber (negative : Bool) (cs : List Char) : Except Flaw (Option Number × List Char) := do
  let (whole, rest) ← readWhole cs
  let (fraction, rest) ← readFraction rest
  let (exponent, rest) ← readExponent rest
  return (number? negative whole fraction exponent, rest)

/-! ## Values -/

/-- What follows a given word. -/
def readWord : List Char → List Char → Except Flaw (List Char)
  | [], cs => .ok cs
  | _ :: _, [] => .error .ended
  | w :: word, c :: cs => if w = c then readWord word cs else .error .malformed

mutual

/-- A value and what follows it.  Each level of the recursion takes a character, so the length of
the text bounds the number of levels. -/
def readValue : Nat → List Char → Except Flaw (Draft × List Char)
  | 0, _ => .error .ended
  | fuel + 1, cs =>
    match skipSpace cs with
    | [] => .error .ended
    | 'n' :: rest => (readWord ['u', 'l', 'l'] rest).map (.null, ·)
    | 't' :: rest => (readWord ['r', 'u', 'e'] rest).map (.bool true, ·)
    | 'f' :: rest => (readWord ['a', 'l', 's', 'e'] rest).map (.bool false, ·)
    | '"' :: rest => (readText rest).map fun (s, after) => (.text s, after)
    | '-' :: rest => (readNumber true rest).map fun (n, after) => (.number n, after)
    | '[' :: rest =>
      match skipSpace rest with
      | ']' :: rest => .ok (.list [], rest)
      | [] => .error .ended
      | rest => (readItems fuel rest).map fun (items, after) => (.list items, after)
    | '{' :: rest =>
      match skipSpace rest with
      | '}' :: rest => .ok (.object [], rest)
      | rest => (readFields fuel rest).map fun (fields, after) => (.object fields, after)
    | c :: rest =>
      if Digits.isDigit c then
        (readNumber false (c :: rest)).map fun (n, after) => (.number n, after)
      else .error .malformed

/-- The items of a list that is not empty, up to its closing bracket. -/
def readItems : Nat → List Char → Except Flaw (List Draft × List Char)
  | 0, _ => .error .ended
  | fuel + 1, cs =>
    match readValue fuel cs with
    | .error e => .error e
    | .ok (v, rest) =>
      match skipSpace rest with
      | [] => .error .ended
      | ']' :: rest => .ok ([v], rest)
      | ',' :: rest =>
        match skipSpace rest with
        | [] => .error .ended
        | ']' :: _ => .error .malformed
        | rest => (readItems fuel rest).map fun (items, after) => (v :: items, after)
      | _ => .error .malformed

/-- The fields of an object that is not empty, up to its closing brace. -/
def readFields : Nat → List Char → Except Flaw (List (Option String × Draft) × List Char)
  | 0, _ => .error .ended
  | fuel + 1, cs =>
    match skipSpace cs with
    | [] => .error .ended
    | '"' :: rest =>
      match readText rest with
      | .error e => .error e
      | .ok (key, rest) =>
        match skipSpace rest with
        | [] => .error .ended
        | ':' :: rest =>
          match readValue fuel rest with
          | .error e => .error e
          | .ok (v, rest) =>
            match skipSpace rest with
            | [] => .error .ended
            | '}' :: rest => .ok ([(key, v)], rest)
            | ',' :: rest =>
              (readFields fuel rest).map fun (fields, after) => ((key, v) :: fields, after)
            | _ => .error .malformed
        | _ => .error .malformed
    | _ => .error .malformed

end

/-- The draft of the value at the start of a text, and what follows it. -/
def readDraft (cs : List Char) : Except Flaw (Draft × List Char) :=
  readValue (cs.length + 1) cs

/-! ## From drafts to values -/

mutual

/-- The value of a draft with at most `depth` levels of lists and objects. -/
def Draft.resolve? (depth : Nat) : Draft → Option Json
  | .null => some .null
  | .bool b => some (.bool b)
  | .number n => n.map .number
  | .text s => s.map .text
  | .list items =>
    match depth with
    | 0 => none
    | depth + 1 => (resolveItems? depth items).map .list
  | .object fields =>
    match depth with
    | 0 => none
    | depth + 1 => (resolveFields? depth fields).map fun fs => .object (sortFields fs)

/-- The values of a list of drafts. -/
def resolveItems? (depth : Nat) : List Draft → Option (List Json)
  | [] => some []
  | d :: rest => do
    let v ← d.resolve? depth
    let vs ← resolveItems? depth rest
    return v :: vs

/-- The values of a list of fields. -/
def resolveFields? (depth : Nat) : List (Option String × Draft) → Option (List (String × Json))
  | [] => some []
  | (key, d) :: rest => do
    let k ← key
    let v ← d.resolve? depth
    let fs ← resolveFields? depth rest
    return (k, v) :: fs

end

/-- The levels of lists and objects that a value may have. -/
def maxDepth : Nat := 127

/-- The value that a text stands for, with the fields of its objects in ascending order. -/
def read? (s : String) : Option Json :=
  match readDraft s.toList with
  | .error _ => none
  | .ok (d, rest) => if (skipSpace rest).isEmpty then d.resolve? maxDepth else none

mutual

/-- A value seen as a draft in which nothing is left open. -/
def draft : Json → Draft
  | .null => .null
  | .bool b => .bool b
  | .number n => .number (some n)
  | .text s => .text (some s)
  | .list items => .list (draftItems items)
  | .object fields => .object (draftFields fields)

/-- The drafts of a list of values. -/
def draftItems : List Json → List Draft
  | [] => []
  | v :: rest => draft v :: draftItems rest

/-- The drafts of the fields of an object. -/
def draftFields : List (String × Json) → List (Option String × Draft)
  | [] => []
  | (k, v) :: rest => (some k, draft v) :: draftFields rest

end

end LanguageBridge.Json
