import LanguageBridge.Text.Ranges

/-!
# Blank characters

Trimming removes the characters with the Unicode property White_Space from both ends of a text.
The property holds of 25 characters; it does not hold of the information separators U+001C to
U+001F nor of the zero-width space, which are kept.
-/

namespace LanguageBridge.Text

/-- The characters with the property White_Space, in ascending order. -/
def blankRanges : List (Nat × Nat) := [
  (0x9, 0xD), (0x20, 0x20), (0x85, 0x85), (0xA0, 0xA0), (0x1680, 0x1680),
  (0x2000, 0x200A), (0x2028, 0x2029), (0x202F, 0x202F), (0x205F, 0x205F), (0x3000, 0x3000)]

/-- Whether a character counts as blank. -/
def isBlank (c : Char) : Bool := inRanges blankRanges c

/-- A list of characters without the blank ones at its ends. -/
def trimList (cs : List Char) : List Char :=
  (((cs.dropWhile isBlank).reverse).dropWhile isBlank).reverse

/-- A text without the blank characters at its ends. -/
def trim (s : String) : String := String.ofList (trimList s.toList)

/-- Whether a text holds nothing but blank characters. -/
def allBlank (s : String) : Bool := (trimList s.toList).isEmpty

end LanguageBridge.Text
