import LanguageBridge.Editor.Position
import LanguageBridge.Server.Position
import LanguageBridge.Word32

/-!
# The preamble

The server sees a preamble in front of the visible document.  Every line break of the preamble
moves the document down by one line, so places are converted on the way to the server and back.
The editor counts from one and the server from zero.
-/

namespace LanguageBridge.Preamble

/-- The number of lines by which a preamble moves the document. -/
def lines (preamble : Option String) : UInt32 :=
  match preamble with
  | none => 0
  | some text => UInt32.ofNat (text.toList.count '\n')

/-- The text that the server sees. -/
def inFrontOf (preamble : Option String) (text : String) : String :=
  match preamble with
  | none => text
  | some front => front ++ text

/-- A place of the editor as the server sees it. -/
def toServer (lines : UInt32) (place : Editor.Position) : Server.Position :=
  ⟨UInt32.ofNat (place.line.toNat - 1) + lines, UInt32.ofNat (place.column.toNat - 1)⟩

/-- A stretch of the server as the editor sees it; none if it starts inside the preamble. -/
def toEditor? (lines : UInt32) (range : Server.Range) : Option Editor.Range :=
  if range.start.line < lines then none
  else some {
    startLine := Word32.clamp (range.start.line.toNat - lines.toNat + 1)
    startColumn := Word32.clamp (range.start.character.toNat + 1)
    endLine := Word32.clamp (range.stop.line.toNat - lines.toNat + 1)
    endColumn := Word32.clamp (range.stop.character.toNat + 1) }

theorem toEditor?_of_lt {lines : UInt32} {range : Server.Range} (h : range.start.line < lines) :
    toEditor? lines range = none := by
  rw [toEditor?, if_pos h]

end LanguageBridge.Preamble
