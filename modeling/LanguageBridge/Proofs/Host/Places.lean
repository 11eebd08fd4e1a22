import LanguageBridge.Proofs.Editor.Lines
import LanguageBridge.Proofs.Editor.Translation
import LanguageBridge.Proofs.Host.Documents

/-!
# A place that is sent names its own line

What the server is sent for a request is a whole text, the document behind the header, and a place
in it.  The place is moved down by the line breaks of the header.  `sent_in_place` says that this is
the right number: the line that the place names in the whole text is the line of the document that
the request is about, character by character.

This rests on how headers are normalized.  A header that is kept ends with a line break, so it ends
where a line of the document starts; with a preamble that does not, the first line of the document
would be longer in the whole text, and a place in it would point elsewhere.
-/

namespace LanguageBridge

namespace Preamble

/-- The line breaks of a preamble, if there is one. -/
def breaks : Option String → Nat
  | none => 0
  | some text => text.toList.count '\n'

/-- The lines of a preamble are its line breaks, as long as there is a word for them. -/
theorem toNat_lines {preamble : Option String} (fits : breaks preamble < UInt32.size) :
    (lines preamble).toNat = breaks preamble := by
  cases preamble with
  | none => rfl
  | some text => exact UInt32.toNat_ofNat_of_lt' fits

end Preamble

namespace Host

open Client (Request System)
open Editor (linesOf)

/-- A header that is kept ends with a line break. -/
theorem normalizeHeader_ends {text header : String} (kept : normalizeHeader text = some header) :
    ∃ front, header.toList = front ++ ['\n'] := by
  unfold normalizeHeader at kept
  split at kept
  · cases kept
  · cases kept
    exact ⟨_, String.toList_ofList⟩

/-- Behind a header the lines of a text are the same, as many lines further down as the header has
line breaks. -/
theorem getElem?_linesOf_header (header text : String) (n : Nat) :
    (linesOf (Preamble.inFrontOf (normalizeHeader header) text).toList)[n
        + Preamble.breaks (normalizeHeader header)]? = (linesOf text.toList)[n]? := by
  cases kept : normalizeHeader header with
  | none => rfl
  | some front =>
      obtain ⟨trimmed, ends⟩ := normalizeHeader_ends kept
      rw [Preamble.inFrontOf, Preamble.breaks, String.toList_append, ends]
      exact Editor.getElem?_linesOf_behind trimmed text.toList n

/-- A request that runs for the first time in a run of the bridge sends nothing, or it sends the
document behind the preamble of this moment and right after it the place, moved down by that
preamble. -/
theorem queued_or_kept (options : Client.Options) (deeds : List Deed) {s : System}
    (run : s = ((Bridge.fresh (.fresh options)).acts deeds).system) {r : Request}
    (mem : r ∈ s.requests) :
    s.Kept (s.runRequest r.number) ∨ ∃ c uri language id more,
      ((s.runRequest r.number).connection c).link.queued = (s.connection c).link.queued
        ++ .frame (.didOpen uri language (Preamble.inFrontOf s.state.preamble r.text))
          :: .frame (.request id r.feature.method (Message.placeParams uri
            (Preamble.toServer (Preamble.lines s.state.preamble) r.place))) :: more := by
  cases Client.System.ran_runRequest s r.number with
  | kept kept fewer => exact .inl kept
  | @sent q c id more there own starting serves queued plain others left =>
      -- Only the request that has run has this number.
      have numbered : Client.System.Numbered s := run ▸ (travelled options deeds).numbered
      obtain rfl := List.inj_on_of_nodup_map numbered.distinct there mem own
      exact .inr ⟨c, _, _, id, more, queued⟩

/-- The place that is sent for a place in a document has the line of that place, moved down by the
line breaks of the header, and its column, both counted from zero; and in the text that is sent, the
document behind the header, this line is the line of the document that the place is on.  A request
that is made for that document and that place, and runs while the header is set, sends nothing but
this text and, right after it, this place. -/
theorem sent_in_place {header text : String} {place : Editor.Position}
    (line : 1 ≤ place.line.toNat) (inside : place.line.toNat ≤ (linesOf text.toList).length)
    (column : 1 ≤ place.column.toNat)
    (fits : place.line.toNat - 1 + Preamble.breaks (normalizeHeader header) < UInt32.size) :
    let preamble := normalizeHeader header
    let whole := Preamble.inFrontOf preamble text
    let sent := Preamble.toServer (Preamble.lines preamble) place
    sent.line.toNat + 1 = place.line.toNat + Preamble.breaks preamble ∧
      sent.character.toNat + 1 = place.column.toNat ∧
      (∃ own, (linesOf text.toList)[place.line.toNat - 1]? = some own ∧
        (linesOf whole.toList)[sent.line.toNat]? = some own) ∧
      ∀ options deeds, let s := ((Bridge.fresh (.fresh options)).acts deeds).system
        s.state.preamble = preamble → ∀ r ∈ s.requests, r.text = text → r.place = place →
          s.Kept (s.runRequest r.number) ∨ ∃ c uri language id more,
            ((s.runRequest r.number).connection c).link.queued = (s.connection c).link.queued
              ++ .frame (.notification "textDocument/didOpen" (.object [("textDocument", .object [
                  ("languageId", .text language), ("text", .text whole), ("uri", .text uri),
                  ("version", .nat 1)])]))
                :: .frame (.request id r.feature.method (.object [
                  ("position", .object [
                    ("line", .nat sent.line.toNat), ("character", .nat sent.character.toNat)]),
                  ("textDocument", .object [("uri", .text uri)])])) :: more := by
  intro preamble whole sent
  have shift : (Preamble.lines preamble).toNat = Preamble.breaks preamble :=
    Preamble.toNat_lines (Nat.lt_of_le_of_lt (Nat.le_add_left _ _) fits)
  have moved : sent.line.toNat = place.line.toNat - 1 + Preamble.breaks preamble := by
    rw [Preamble.line_toServer (shift ▸ fits), shift]
  have within : place.line.toNat - 1 < (linesOf text.toList).length := by omega
  refine ⟨by omega, ?_, ⟨_, List.getElem?_eq_getElem within, ?_⟩, ?_⟩
  · rw [Preamble.character_toServer]
    exact Nat.sub_add_cancel column
  · rw [moved, getElem?_linesOf_header]
    exact List.getElem?_eq_getElem within
  · intro options deeds s set r mem text_ place_
    have queued := queued_or_kept options deeds rfl mem
    rwa [show ((Bridge.fresh (.fresh options)).acts deeds).system.state.preamble = preamble from set,
      text_, place_] at queued

/-- A header of two lines, of which one ends with a carriage return as well, in front of the second
line of a document. -/
theorem secondLine_in_place :
    let preamble := normalizeHeader " import os\r\nimport sys\n\n"
    let text := "x = 1\nos.getcwd()"
    let place : Editor.Position := ⟨2, 4⟩
    (1 ≤ place.line.toNat ∧ place.line.toNat ≤ (linesOf text.toList).length ∧
      1 ≤ place.column.toNat ∧
      place.line.toNat - 1 + Preamble.breaks preamble < UInt32.size) ∧
    Preamble.inFrontOf preamble text = "import os\r\nimport sys\nx = 1\nos.getcwd()" ∧
    Preamble.toServer (Preamble.lines preamble) place = ⟨3, 3⟩ ∧
    (linesOf (Preamble.inFrontOf preamble text).toList)[3]? = some "os.getcwd()".toList := by
  intro preamble text place
  have header : preamble = some "import os\r\nimport sys\n" := by decide +kernel
  have inside : place.line.toNat ≤ (linesOf text.toList).length := by decide
  have fits : place.line.toNat - 1 + Preamble.breaks preamble < UInt32.size := by
    rw [header]
    decide
  have sent : Preamble.toServer (Preamble.lines preamble) place = ⟨3, 3⟩ := by
    rw [header]
    decide
  obtain ⟨-, -, ⟨own, here, there⟩, -⟩ :=
    sent_in_place (by decide : 1 ≤ place.line.toNat) inside (by decide) fits
  have named : some own = some "os.getcwd()".toList := here.symm.trans (by decide)
  change (linesOf (Preamble.inFrontOf preamble text).toList)[(Preamble.toServer
    (Preamble.lines preamble) place).line.toNat]? = some own at there
  rw [sent] at there
  exact ⟨⟨by decide, inside, by decide, fits⟩, by rw [header]; decide, sent, there.trans named⟩

end Host
end LanguageBridge
