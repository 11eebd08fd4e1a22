import LanguageBridge.Proofs.Json.Reading

/-!
# What is printed can be read

A value whose numbers are whole, not negative and within sixty-four bits is *plain*.  Both layouts
of a plain value read back as that value (`Plain.reads_print`, `Plain.reads_printIndented`), and the
compact one stands on one line (`Plain.oneLine`): every character below the space is escaped.

Commands, events and settings are plain.  Numbers of other kinds can be read as well, but their
written form is not looked into here.

The induction is on being plain.  Its cases for lists and objects give the statement for every part
at once, and the two lemmas `readsItems_…` and `readsFields_…` of each layout turn that into one
about the text of all parts together.
-/

namespace LanguageBridge.Json

/-! ## The layouts -/

/-- A value whose numbers are whole, not negative and within sixty-four bits. -/
inductive Plain : Json → Prop
  | null : Plain .null
  | bool (b : Bool) : Plain (.bool b)
  | nat {n : Nat} (fits : n ≤ maxNatural) : Plain (.nat n)
  | text (s : String) : Plain (.text s)
  | list {items : List Json} (each : ∀ v ∈ items, Plain v) : Plain (.list items)
  | object {fields : List (String × Json)} (each : ∀ f ∈ fields, Plain f.2) :
      Plain (.object fields)

theorem readsItems_print {items : List Json} (each : ∀ v ∈ items, Reads v (print v)) :
    ReadsItems items (printItems items) := by
  induction items with
  | nil =>
      rw [printItems]
      exact readsItems_close blank_nil
  | cons v rest ih =>
      rw [printItems]
      exact readsItems_item blank_nil (each v List.mem_cons_self)
        (ih fun w mem => each w (List.mem_cons_of_mem v mem))

theorem readsFields_print {fields : List (String × Json)}
    (each : ∀ f ∈ fields, Reads f.2 (print f.2)) : ReadsFields fields (printFields fields) := by
  induction fields with
  | nil =>
      rw [printFields]
      exact readsFields_close blank_nil
  | cons f rest ih =>
      rw [printFields]
      have reads := readsFields_field (k := f.1) blank_nil blank_nil (each f List.mem_cons_self)
        (ih fun g mem => each g (List.mem_cons_of_mem f mem))
      simpa using reads

/-- The compact layout of a plain value reads as that value. -/
theorem Plain.reads_print {v : Json} (plain : Plain v) : Reads v (print v) := by
  induction plain with
  | null => rw [print]; exact reads_null
  | bool b => exact reads_bool b
  | nat fits => rw [Json.nat, print]; exact reads_natural fits
  | text s => rw [print]; exact reads_text s
  | @list items each ih =>
      cases items with
      | nil => rw [print]; exact reads_nil
      | cons v rest =>
          rw [print]
          exact reads_list blank_nil (ih v List.mem_cons_self)
            (readsItems_print fun w mem => ih w (List.mem_cons_of_mem v mem))
  | @object fields each ih =>
      cases fields with
      | nil => rw [print]; exact reads_empty
      | cons f rest =>
          rw [print]
          have reads := reads_object (k := f.1) blank_nil blank_nil (ih f List.mem_cons_self)
            (readsFields_print fun g mem => ih g (List.mem_cons_of_mem f mem))
          simpa using reads

theorem readsItems_printIndented (depth : Nat) {items : List Json}
    (each : ∀ v ∈ items, Reads v (printIndented (depth + 1) v)) :
    ReadsItems items (printIndentedItems depth items) := by
  induction items with
  | nil =>
      rw [printIndentedItems]
      exact readsItems_close (blank_newline depth)
  | cons v rest ih =>
      rw [printIndentedItems]
      exact readsItems_item (blank_newline _) (each v List.mem_cons_self)
        (ih fun w mem => each w (List.mem_cons_of_mem v mem))

/-- Fields on lines of their own, one level deeper. -/
theorem readsFields_printIndented (depth : Nat) {fields : List (String × Json)}
    (each : ∀ f ∈ fields, Reads f.2 (printIndented (depth + 1) f.2)) :
    ReadsFields fields (printIndentedFields depth fields) := by
  induction fields with
  | nil =>
      rw [printIndentedFields]
      exact readsFields_close (blank_newline depth)
  | cons f rest ih =>
      rw [printIndentedFields]
      exact readsFields_field (blank_newline _) blank_space (each f List.mem_cons_self)
        (ih fun g mem => each g (List.mem_cons_of_mem f mem))

/-- So does the indented one, wherever it starts. -/
theorem Plain.reads_printIndented {v : Json} (plain : Plain v) (depth : Nat) :
    Reads v (printIndented depth v) := by
  induction plain generalizing depth with
  | null => rw [printIndented]; exact reads_null
  | bool b => cases b <;> rw [printIndented] <;> exact reads_bool _
  | nat fits => rw [Json.nat, printIndented]; exact reads_natural fits
  | text s => rw [printIndented]; exact reads_text s
  | @list items each ih =>
      cases items with
      | nil => rw [printIndented]; exact reads_nil
      | cons v rest =>
          rw [printIndented]
          exact reads_list (blank_newline _) (ih v List.mem_cons_self _)
            (readsItems_printIndented depth fun w mem => ih w (List.mem_cons_of_mem v mem) _)
  | @object fields each ih =>
      cases fields with
      | nil => rw [printIndented]; exact reads_empty
      | cons f rest =>
          rw [printIndented]
          exact reads_object (blank_newline _) blank_space (ih f List.mem_cons_self _)
            (readsFields_printIndented depth fun g mem => ih g (List.mem_cons_of_mem f mem) _)

/-! ## Braces -/

theorem printFields_ends (fields : List (String × Json)) :
    ∃ inner, printFields fields = inner ++ ['\x7d'] := by
  induction fields with
  | nil => exact ⟨[], by rw [printFields]; rfl⟩
  | cons f rest ih =>
      obtain ⟨inner, ends⟩ := ih
      refine ⟨',' :: printText f.1 ++ ':' :: print f.2 ++ inner, ?_⟩
      rw [printFields, ends, List.append_assoc _ inner]

/-- The compact layout of an object stands between braces. -/
theorem print_object (fields : List (String × Json)) :
    ∃ inner, print (.object fields) = '\x7b' :: inner ++ ['\x7d'] := by
  cases fields with
  | nil => exact ⟨[], by rw [print]; rfl⟩
  | cons f rest =>
      obtain ⟨inner, ends⟩ := printFields_ends rest
      refine ⟨printText f.1 ++ ':' :: print f.2 ++ inner, ?_⟩
      rw [print, ends]
      simp

/-! ## Line breaks -/

/-- A text without any character below the space, and so without a line break. -/
def OneLine (text : List Char) : Prop := ∀ c ∈ text, 0x20 ≤ c.toNat

namespace OneLine

theorem nil : OneLine [] := nofun

theorem of_all {text : List Char} (all : text.all (0x20 ≤ ·.toNat) = true) : OneLine text := by
  intro c mem
  exact of_decide_eq_true (List.all_eq_true.1 all c mem)

theorem cons {c : Char} {text : List Char} (first : 0x20 ≤ c.toNat) (rest : OneLine text) :
    OneLine (c :: text) := by
  intro d mem
  rcases List.mem_cons.1 mem with rfl | mem
  · exact first
  · exact rest d mem

theorem append {left right : List Char} (first : OneLine left) (rest : OneLine right) :
    OneLine (left ++ right) := by
  intro c mem
  exact (List.mem_append.1 mem).elim (first c) (rest c)

/-- A character is escaped if it would break the line. -/
theorem escapeChar (c : Char) : OneLine (escapeChar c) := by
  have hex : ∀ n, n < 16 → 0x20 ≤ (hexDigit n).toNat := by decide
  have pair {e : Char} (letter : 0x20 ≤ e.toNat) : OneLine ['\\', e] :=
    cons (by decide) (cons letter nil)
  unfold Json.escapeChar
  split_ifs with quote slash back feed line turn tab control
  · exact pair (by decide)
  · exact pair (by decide)
  · exact pair (by decide)
  · exact pair (by decide)
  · exact pair (by decide)
  · exact pair (by decide)
  · exact pair (by decide)
  · refine cons (by decide) (cons (by decide) (cons (by decide) (cons (by decide) ?_)))
    exact cons (hex _ (by omega)) (cons (hex _ (by omega)) nil)
  · exact cons (Nat.le_of_not_lt control) nil

/-- A printed text has no line break, whatever the text has. -/
theorem printText (s : String) : OneLine (printText s) := by
  refine append (cons (by decide) fun c mem => ?_) (cons (by decide) nil)
  obtain ⟨d, -, own⟩ := List.mem_flatMap.1 mem
  exact escapeChar d c own

theorem digits (n : Nat) : OneLine (Digits.digits n) := by
  intro c mem
  have digit := Digits.isDigit_of_mem_digits n c mem
  rw [Digits.isDigit, Bool.and_eq_true, decide_eq_true_eq] at digit
  exact Nat.le_trans (by decide) digit.1

theorem printItems {items : List Json} (each : ∀ v ∈ items, OneLine (print v)) :
    OneLine (printItems items) := by
  induction items with
  | nil => rw [Json.printItems]; exact cons (by decide) nil
  | cons v rest ih =>
      rw [Json.printItems]
      exact append (cons (by decide) (each v List.mem_cons_self))
        (ih fun w mem => each w (List.mem_cons_of_mem v mem))

theorem printFields {fields : List (String × Json)} (each : ∀ f ∈ fields, OneLine (print f.2)) :
    OneLine (printFields fields) := by
  induction fields with
  | nil => rw [Json.printFields]; exact cons (by decide) nil
  | cons f rest ih =>
      rw [Json.printFields]
      exact append (append (cons (by decide) (printText f.1))
        (cons (by decide) (each f List.mem_cons_self)))
        (ih fun g mem => each g (List.mem_cons_of_mem f mem))

end OneLine

/-- The compact layout of a plain value stands on one line. -/
theorem Plain.oneLine {v : Json} (plain : Plain v) : OneLine (print v) := by
  induction plain with
  | null => rw [print]; exact .of_all rfl
  | bool b => cases b <;> rw [print] <;> exact .of_all rfl
  | nat fits => rw [Json.nat, print]; exact .digits _
  | text s => rw [print]; exact .printText s
  | @list items each ih =>
      cases items with
      | nil => rw [print]; exact .of_all rfl
      | cons v rest =>
          rw [print]
          exact .append (.cons (by decide) (ih v List.mem_cons_self))
            (.printItems fun w mem => ih w (List.mem_cons_of_mem v mem))
  | @object fields each ih =>
      cases fields with
      | nil => rw [print]; exact .of_all rfl
      | cons f rest =>
          rw [print]
          exact .append (.append (.cons (by decide) (.printText f.1))
            (.cons (by decide) (ih f List.mem_cons_self)))
            (.printFields fun g mem => ih g (List.mem_cons_of_mem f mem))

end LanguageBridge.Json
