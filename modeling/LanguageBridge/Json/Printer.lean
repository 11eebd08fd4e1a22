import LanguageBridge.Json.Value

/-!
# Printing JSON

Two layouts of one value: the compact one without any space, used for messages, and the indented
one, used for the settings file.  In texts only the quote, the backslash and the control
characters below the space are escaped, so a compact text never holds a line break.
-/

namespace LanguageBridge.Json

/-- One hexadecimal digit in lower case. -/
def hexDigit (n : Nat) : Char := if n < 10 then Char.ofNat (48 + n) else Char.ofNat (87 + n)

/-- The written form of one character of a text. -/
def escapeChar (c : Char) : List Char :=
  if c = '"' then ['\\', '"']
  else if c = '\\' then ['\\', '\\']
  else if c = '\x08' then ['\\', 'b']
  else if c = '\x0c' then ['\\', 'f']
  else if c = '\n' then ['\\', 'n']
  else if c = '\r' then ['\\', 'r']
  else if c = '\t' then ['\\', 't']
  else if c.toNat < 0x20 then
    ['\\', 'u', '0', '0', hexDigit (c.toNat / 16), hexDigit (c.toNat % 16)]
  else [c]

/-- A text between quotes. -/
def printText (s : String) : List Char := '"' :: s.toList.flatMap escapeChar ++ ['"']

/-- A number. -/
def Number.print : Number → List Char
  | .natural n => Digits.digits n
  | .negative n => '-' :: Digits.digits n
  | .double d => d.print

mutual

/-- The compact layout of a value. -/
def print : Json → List Char
  | .null => ['n', 'u', 'l', 'l']
  | .bool true => ['t', 'r', 'u', 'e']
  | .bool false => ['f', 'a', 'l', 's', 'e']
  | .number n => n.print
  | .text s => printText s
  | .list [] => ['[', ']']
  | .list (v :: rest) => '[' :: print v ++ printItems rest
  | .object [] => ['{', '}']
  | .object ((k, v) :: rest) => '{' :: printText k ++ ':' :: print v ++ printFields rest

/-- The items after the first one, up to the closing bracket. -/
def printItems : List Json → List Char
  | [] => [']']
  | v :: rest => ',' :: print v ++ printItems rest

/-- The fields after the first one, up to the closing brace. -/
def printFields : List (String × Json) → List Char
  | [] => ['}']
  | (k, v) :: rest => ',' :: printText k ++ ':' :: print v ++ printFields rest

end

/-- A line break followed by `depth` levels of indentation. -/
def newline (depth : Nat) : List Char := '\n' :: List.replicate (2 * depth) ' '

mutual

/-- The indented layout of a value that starts `depth` levels deep. -/
def printIndented (depth : Nat) : Json → List Char
  | .list (v :: rest) =>
    '[' :: newline (depth + 1) ++ printIndented (depth + 1) v ++ printIndentedItems depth rest
  | .object ((k, v) :: rest) =>
    '{' :: newline (depth + 1) ++ printText k ++ [':', ' '] ++ printIndented (depth + 1) v
      ++ printIndentedFields depth rest
  | .null => ['n', 'u', 'l', 'l']
  | .bool true => ['t', 'r', 'u', 'e']
  | .bool false => ['f', 'a', 'l', 's', 'e']
  | .number n => n.print
  | .text s => printText s
  | .list [] => ['[', ']']
  | .object [] => ['{', '}']

/-- The items after the first one, up to the closing bracket, which stands `depth` levels deep. -/
def printIndentedItems (depth : Nat) : List Json → List Char
  | [] => newline depth ++ [']']
  | v :: rest =>
    ',' :: newline (depth + 1) ++ printIndented (depth + 1) v ++ printIndentedItems depth rest

/-- The fields after the first one, up to the closing brace, which stands `depth` levels deep. -/
def printIndentedFields (depth : Nat) : List (String × Json) → List Char
  | [] => newline depth ++ ['}']
  | (k, v) :: rest =>
    ',' :: newline (depth + 1) ++ printText k ++ [':', ' '] ++ printIndented (depth + 1) v
      ++ printIndentedFields depth rest

end

/-- A value on one line. -/
def compact (v : Json) : String := String.ofList (print v)

/-- A value over several lines. -/
def pretty (v : Json) : String := String.ofList (printIndented 0 v)

end LanguageBridge.Json
