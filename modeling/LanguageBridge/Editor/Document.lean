import LanguageBridge.Editor.Position
import LanguageBridge.Text.WordCharacter
import LanguageBridge.Word32

/-!
# Documents

The visible document is a text; its lines are separated by line feeds.  `wordBefore` finds the
word that ends at a position: the longest run of word characters directly in front of it.  A line
that does not exist counts as empty, and a column outside its line as the nearest one inside.
-/

namespace LanguageBridge.Editor

/-- The lines of a text. -/
def linesOf : List Char → List (List Char)
  | [] => [[]]
  | c :: rest =>
    if c = '\n' then [] :: linesOf rest
    else
      match linesOf rest with
      | [] => [[c]]
      | line :: more => (c :: line) :: more

/-- The longest run of word characters at the end of a list of characters. -/
def trailingWord (cs : List Char) : List Char :=
  (cs.reverse.takeWhile Text.isWordCharacter).reverse

/-- The word that ends at a position of a text. -/
def wordBefore (text : String) (place : Position) : WordAt :=
  let line := (linesOf text.toList).getD (place.line.toNat - 1) []
  let last := min (min line.length Word32.greatest + 1) Word32.greatest
  let column := max 1 (min place.column.toNat last)
  let word := trailingWord (line.take (column - 1))
  { word := String.ofList word
    startColumn := UInt32.ofNat (column - word.length)
    endColumn := UInt32.ofNat column }

end LanguageBridge.Editor
