import LanguageBridge.Preamble

/-!
# Places there and back

A place of the editor and a place of the server are numbers of thirty-two bits that count from one
and from zero, and the preamble lies between them.  On the way to the server the arithmetic stops at
zero, on the way back at the greatest word, and a stretch that starts inside the preamble has no
place in the editor at all.  `translates_back` says that within these limits nothing is lost: the
two ways are inverse to each other and keep the order.

A stretch is translated end by end (`toEditor?_of_le`), so all that has to be known is what happens
to one place (`back`).  The end of a stretch may be translated like its start because it does not
come before it.
-/

namespace LanguageBridge

/-! ## Places -/

namespace Server.Position

/-- A place does not come behind another one. -/
def UpTo (p q : Position) : Prop := p.line < q.line ∨ p.line = q.line ∧ p.character ≤ q.character

instance (p q : Position) : Decidable (p.UpTo q) := inferInstanceAs (Decidable (_ ∨ _))

/-- Neither number of a place is the greatest word. -/
def Inner (p : Position) : Prop :=
  p.line.toNat < Word32.greatest ∧ p.character.toNat < Word32.greatest

instance (p : Position) : Decidable p.Inner := inferInstanceAs (Decidable (_ ∧ _))

end Server.Position

namespace Editor

namespace Position

/-- A place does not come behind another one. -/
def UpTo (p q : Position) : Prop := p.line < q.line ∨ p.line = q.line ∧ p.column ≤ q.column

instance (p q : Position) : Decidable (p.UpTo q) := inferInstanceAs (Decidable (_ ∨ _))

/-- Line and column count from one. -/
def FromOne (p : Position) : Prop := 1 ≤ p.line.toNat ∧ 1 ≤ p.column.toNat

instance (p : Position) : Decidable p.FromOne := inferInstanceAs (Decidable (_ ∧ _))

end Position

namespace Range

/-- Where a stretch starts. -/
def start (r : Range) : Position := ⟨r.startLine, r.startColumn⟩

/-- Where a stretch stops. -/
def stop (r : Range) : Position := ⟨r.endLine, r.endColumn⟩

/-- The stretch from one place to another. -/
def between (p q : Position) : Range := ⟨p.line, p.column, q.line, q.column⟩

end Range
end Editor

namespace Preamble

variable {lines : UInt32} {place : Editor.Position} {p q : Server.Position}

/-! ## To the server -/

/-- A line is moved down by the lines of the preamble, as long as there is a word for it. -/
theorem line_toServer (fits : place.line.toNat - 1 + lines.toNat < UInt32.size) :
    (toServer lines place).line.toNat = place.line.toNat - 1 + lines.toNat := by
  have above : (UInt32.ofNat (place.line.toNat - 1)).toNat = place.line.toNat - 1 :=
    UInt32.toNat_ofNat_of_lt' (Nat.lt_of_le_of_lt (Nat.le_add_right _ _) fits)
  rw [toServer, UInt32.toNat_add, above]
  exact Nat.mod_eq_of_lt fits

/-- Columns count from one, and characters from zero. -/
theorem character_toServer (lines : UInt32) (place : Editor.Position) :
    (toServer lines place).character.toNat = place.column.toNat - 1 :=
  UInt32.toNat_ofNat_of_lt' (Nat.lt_of_le_of_lt (Nat.sub_le _ _) place.column.toNat_lt)

/-! ## Back to the editor -/

/-- A place of the server as the editor sees it. -/
def back (lines : UInt32) (p : Server.Position) : Editor.Position :=
  ⟨Word32.clamp (p.line.toNat - lines.toNat + 1), Word32.clamp (p.character.toNat + 1)⟩

/-- A stretch behind the preamble is translated end by end. -/
theorem toEditor?_of_le {range : Server.Range} (behind : lines ≤ range.start.line) :
    toEditor? lines range = some (.between (back lines range.start) (back lines range.stop)) := by
  rw [toEditor?, if_neg (UInt32.not_lt.2 behind)]
  rfl

/-- The line of a place that comes back, counted in numbers without bounds. -/
theorem line_back (inner : p.Inner) :
    (back lines p).line.toNat = p.line.toNat - lines.toNat + 1 := by
  have below := inner.1
  rw [back, Word32.toNat_clamp]
  omega

theorem column_back (inner : p.Inner) : (back lines p).column.toNat = p.character.toNat + 1 := by
  have below := inner.2
  rw [back, Word32.toNat_clamp]
  omega

theorem fromOne_back (inner : p.Inner) : (back lines p).FromOne := by
  rw [Editor.Position.FromOne, line_back inner, column_back inner]
  exact ⟨Nat.le_add_left 1 _, Nat.le_add_left 1 _⟩

/-- A place behind the preamble comes back from the editor. -/
theorem toServer_back (inner : p.Inner) (behind : lines ≤ p.line) :
    toServer lines (back lines p) = p := by
  have behind := UInt32.le_iff_toNat_le.1 behind
  have line : (toServer lines (back lines p)).line = p.line := by
    have moved : (back lines p).line.toNat - 1 + lines.toNat = p.line.toNat := by
      rw [line_back inner]
      omega
    rw [← UInt32.toNat_inj, line_toServer (moved ▸ p.line.toNat_lt), moved]
  have character : (toServer lines (back lines p)).character = p.character := by
    rw [← UInt32.toNat_inj, character_toServer, column_back inner, Nat.add_sub_cancel]
  cases p
  exact (Server.Position.mk.injEq ..).mpr ⟨line, character⟩

/-- A place comes back from the server. -/
theorem back_toServer (fromOne : place.FromOne)
    (fits : place.line.toNat - 1 + lines.toNat < Word32.greatest) :
    back lines (toServer lines place) = place := by
  have first := fromOne.1
  have inside := place.column.toNat_lt
  have moved : (toServer lines place).line.toNat = place.line.toNat - 1 + lines.toNat :=
    line_toServer (Nat.lt_succ_of_lt fits)
  have inner : (toServer lines place).Inner := by
    refine ⟨moved ▸ fits, ?_⟩
    rw [character_toServer, Word32.greatest]
    have := fromOne.2
    omega
  have line : (back lines (toServer lines place)).line = place.line := by
    rw [← UInt32.toNat_inj, line_back inner, moved]
    omega
  have column : (back lines (toServer lines place)).column = place.column := by
    rw [← UInt32.toNat_inj, column_back inner, character_toServer]
    exact Nat.sub_add_cancel fromOne.2
  cases place
  exact (Editor.Position.mk.injEq ..).mpr ⟨line, column⟩

/-- The order of places is kept. -/
theorem upTo_back (inner : p.Inner) (inner' : q.Inner) (behind : lines ≤ p.line)
    (upTo : p.UpTo q) : (back lines p).UpTo (back lines q) := by
  have behind := UInt32.le_iff_toNat_le.1 behind
  rcases upTo with above | ⟨same, before⟩
  · have above := UInt32.lt_iff_toNat_lt.1 above
    refine .inl (UInt32.lt_iff_toNat_lt.2 ?_)
    rw [line_back inner, line_back inner']
    omega
  · refine .inr ⟨?_, UInt32.le_iff_toNat_le.2 ?_⟩
    · rw [← UInt32.toNat_inj, line_back inner, line_back inner', same]
    · rw [column_back inner, column_back inner']
      exact Nat.succ_le_succ (UInt32.le_iff_toNat_le.1 before)

/-! ## Both ways -/

/-- A stretch of the server that starts behind the preamble and whose numbers are not the greatest
word is a stretch of the editor whose ends count from one, are in order and stand for exactly the
ends of the stretch of the server.  One that starts inside the preamble is none.  And two places of
the editor come back from the server as they were, if their lines can be moved down and are not the
greatest word then. -/
theorem translates_back (lines : UInt32) :
    (∀ range : Server.Range, range.start.UpTo range.stop → range.start.Inner → range.stop.Inner →
      lines ≤ range.start.line → ∃ shown, toEditor? lines range = some shown ∧
        shown.start.UpTo shown.stop ∧ shown.start.FromOne ∧ shown.stop.FromOne ∧
        toServer lines shown.start = range.start ∧ toServer lines shown.stop = range.stop) ∧
    (∀ range : Server.Range, range.start.line < lines → toEditor? lines range = none) ∧
    ∀ p q : Editor.Position, p.FromOne → q.FromOne →
      p.line.toNat - 1 + lines.toNat < Word32.greatest →
      q.line.toNat - 1 + lines.toNat < Word32.greatest →
      toEditor? lines ⟨toServer lines p, toServer lines q⟩ = some (.between p q) := by
  refine ⟨?_, fun range => toEditor?_of_lt, ?_⟩
  · intro range upTo inner inner' behind
    have behind' : lines ≤ range.stop.line := by
      rcases upTo with above | ⟨same, -⟩
      · exact UInt32.le_trans behind (UInt32.le_of_lt above)
      · exact same ▸ behind
    exact ⟨_, toEditor?_of_le behind, upTo_back inner inner' behind upTo, fromOne_back inner,
      fromOne_back inner', toServer_back inner behind, toServer_back inner' behind'⟩
  · intro p q fromOne fromOne' fits fits'
    have behind : lines ≤ (toServer lines p).line := by
      rw [UInt32.le_iff_toNat_le, line_toServer (Nat.lt_succ_of_lt fits)]
      exact Nat.le_add_left _ _
    rw [toEditor?_of_le behind, back_toServer fromOne fits, back_toServer fromOne' fits']

/-- Behind three lines, a stretch from the end of the first line that is shown to the last line that
a server can name.  Behind four lines it is none. -/
theorem longest_translates_back :
    let range : Server.Range := ⟨⟨3, 4294967294⟩, ⟨4294967294, 0⟩⟩
    let shown : Editor.Range := ⟨1, 4294967295, 4294967292, 1⟩
    (range.start.UpTo range.stop ∧ range.start.Inner ∧ range.stop.Inner ∧ 3 ≤ range.start.line) ∧
      toEditor? 3 range = some shown ∧ shown.start.UpTo shown.stop ∧
      toServer 3 shown.start = range.start ∧ toServer 3 shown.stop = range.stop ∧
      toEditor? 4 range = none := by
  intro range shown
  have given : range.start.UpTo range.stop ∧ range.start.Inner ∧ range.stop.Inner ∧
      3 ≤ range.start.line := by decide
  obtain ⟨own, found, upTo, -, -, start, stop⟩ :=
    (translates_back 3).1 range given.1 given.2.1 given.2.2.1 given.2.2.2
  have same : own = shown := Option.some.inj (found.symm.trans (by decide))
  subst same
  exact ⟨given, found, upTo, start, stop, (translates_back 4).2.1 range (by decide)⟩

end Preamble
end LanguageBridge
