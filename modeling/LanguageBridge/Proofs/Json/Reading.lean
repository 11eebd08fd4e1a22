import LanguageBridge.Json.Draft
import LanguageBridge.Json.Printer
import Mathlib.Tactic.SplitIfs

/-!
# Reading what was written

What the reader makes of a text that is a value (`Json.Reads`) is put together from what it makes of
the parts: one lemma for each kind of value, and for lists and objects one for the end and one for
one part more.  Blanks may stand between the parts, so all of this holds of every layout.

A text is read from its written form with all its escapes, and a number from its digits, if it is
whole, not negative and within sixty-four bits.

## Fuel and what follows

The reader takes fuel, and leaves what follows the value.  `Reads v text` therefore says that with
enough fuel the reader takes exactly `text` off the front, whatever follows that does not go on with
the value (`Stops`), and leaves the rest untouched.  More fuel than the text has characters is
always enough, so fuel is never counted value by value.

A value is read as a draft first, since a text may hold numbers and escapes that stand for nothing.
What was printed never does, so the lemmas are about the drafts of values.
-/

namespace LanguageBridge.Json

/-! ## Blanks -/

/-- Characters that may stand between the parts of a text. -/
def Blank (gap : List Char) : Prop := ∀ c ∈ gap, isSpace c = true

theorem blank_nil : Blank [] := nofun

/-- A line break and its indentation may stand there. -/
theorem blank_newline (depth : Nat) : Blank (newline depth) := by
  intro c mem
  rcases List.mem_cons.1 mem with rfl | space
  · rfl
  · rw [List.eq_of_mem_replicate space]
    rfl

theorem blank_space : Blank [' '] := by
  intro c mem
  rw [List.mem_singleton.1 mem]
  rfl

theorem skipSpace_append {gap : List Char} (blank : Blank gap) (cs : List Char) :
    skipSpace (gap ++ cs) = skipSpace cs := by
  induction gap with
  | nil => rfl
  | cons c rest ih =>
      have space : isSpace c = true := blank c List.mem_cons_self
      refine Eq.trans ?_ (ih fun c mem => blank c (List.mem_cons_of_mem _ mem))
      simp only [skipSpace, List.cons_append, List.dropWhile_cons, space, if_true]

/-- Nothing is skipped before a character that is none. -/
theorem skipSpace_cons {c : Char} (solid : isSpace c = false) (rest : List Char) :
    skipSpace (c :: rest) = c :: rest := by
  rw [skipSpace, List.dropWhile_cons_of_neg (by simp [solid])]

/-! ## Texts

A text is read up to its closing quote.  What stands for a character is read as that character,
whatever follows. -/

/-- The two digits of a control character give back its code.  There are thirty-two of them to
try. -/
theorem hexCode?_escaped : ∀ n, n < 32 →
    hexCode? '0' '0' (hexDigit (n / 16)) (hexDigit (n % 16)) = some n := by
  decide

/-- A character that is escaped by its code stands for itself. -/
theorem joinUnits_code {n : Nat} (low : n < 0x20) (units : List TextUnit) :
    joinUnits (.code n :: units) = (joinUnits units).map (Char.ofNat n :: ·) := by
  have single : ¬0xD800 ≤ n := by omega
  cases units with
  | nil => simp [joinUnits, single]
  | cons u rest =>
      have high : ¬0xDC00 ≤ n := by omega
      cases u <;> simp [joinUnits, single, high]

/-- A text that reads as some characters. -/
def ReadsAs (text cs after : List Char) : Prop :=
  ∃ units, readUnits text = .ok (units, after) ∧ joinUnits units = some cs

theorem readsAs_quote (after : List Char) : ReadsAs ('"' :: after) [] after :=
  ⟨[], by rw [readUnits], by rw [joinUnits]⟩

/-- The written form of a character is read as that character. -/
theorem ReadsAs.escapeChar {text cs after : List Char} (reads : ReadsAs text cs after) (c : Char) :
    ReadsAs (escapeChar c ++ text) (c :: cs) after := by
  obtain ⟨units, read, joined⟩ := reads
  have short {e : Char} (letter : shortEscape? e = some c) (other : e ≠ 'u') :
      ReadsAs ('\\' :: e :: text) (c :: cs) after := by
    refine ⟨.char c :: units, ?_, by rw [joinUnits, joined]; rfl⟩
    rw [readUnits, if_neg other, letter, read]
    · rfl
    · rintro - - - - - rfl
      exact absurd rfl other
  unfold Json.escapeChar
  split_ifs with quote slash back feed line turn tab control
  · exact short (by rw [quote]; rfl) (by decide)
  · exact short (by rw [slash]; rfl) (by decide)
  · exact short (by rw [back]; rfl) (by decide)
  · exact short (by rw [feed]; rfl) (by decide)
  · exact short (by rw [line]; rfl) (by decide)
  · exact short (by rw [turn]; rfl) (by decide)
  · exact short (by rw [tab]; rfl) (by decide)
  · refine ⟨.code c.toNat :: units, ?_, ?_⟩
    · show readUnits ('\\' :: 'u' :: '0' :: '0' :: _ :: _ :: text) = _
      rw [readUnits, hexCode?_escaped c.toNat control, read]
      rfl
    · rw [joinUnits_code control, joined, Char.ofNat_toNat]
      rfl
  · refine ⟨.char c :: units, ?_, by rw [joinUnits, joined]; rfl⟩
    rw [List.singleton_append, readUnits, if_neg control, read]
    · rfl
    all_goals simp_all

/-- A printed text is its characters, escaped, between quotes. -/
theorem printText_append (s : String) (after : List Char) :
    printText s ++ after = '"' :: (s.toList.flatMap escapeChar ++ '"' :: after) := by
  simp [printText]

/-- A printed text is read as that text. -/
theorem readText_printText (s : String) (after : List Char) :
    readText (s.toList.flatMap escapeChar ++ '"' :: after) = .ok (some s, after) := by
  have reads : ∀ cs : List Char, ReadsAs (cs.flatMap escapeChar ++ '"' :: after) cs after := by
    intro cs
    induction cs with
    | nil => exact readsAs_quote after
    | cons c rest ih =>
        rw [List.flatMap_cons, List.append_assoc]
        exact ih.escapeChar c
  obtain ⟨units, read, joined⟩ := reads s.toList
  rw [readText, read]
  simp only [Except.map, joined, Option.map_some, String.ofList_toList]

/-! ## Numbers

Where a number ends depends on what follows it, which is why all lemmas about numbers ask for a
rest that stops them. -/

/-- What may follow a number without going on with it. -/
def Stops (rest : List Char) : Prop :=
  ∀ c ∈ rest.head?, Digits.isDigit c = false ∧ c ≠ '.' ∧ c ≠ 'e' ∧ c ≠ 'E'

theorem stops_nil : Stops [] := nofun

theorem digits_ne_nil (n : Nat) : Digits.digits n ≠ [] := by
  rw [Digits.digits]
  split <;> simp

/-- Only zero is written with a zero in front. -/
theorem digits_eq_zero {n : Nat} {rest : List Char} (zero : Digits.digits n = '0' :: rest) :
    rest = [] := by
  induction n using Nat.strongRecOn generalizing rest with
  | _ n ih =>
      rw [Digits.digits] at zero
      split at zero
      · exact (List.cons.inj zero).2.symm
      · rename_i large
        rcases front : Digits.digits (n / 10) with _ | ⟨c, cs⟩
        · exact absurd front (digits_ne_nil _)
        · rw [front, List.cons_append] at zero
          rw [(List.cons.inj zero).1] at front
          have single := ih (n / 10) (by omega) front
          have value := Digits.value_digits (n / 10)
          rw [front, single] at value
          have none : Digits.value ['0'] = 0 := rfl
          omega

/-- The digits of a number are taken as long as they go, and then the rest is left. -/
theorem takeWhile_digits (n : Nat) {rest : List Char} (stops : Stops rest) :
    (Digits.digits n ++ rest).takeWhile Digits.isDigit = Digits.digits n ∧
      (Digits.digits n ++ rest).dropWhile Digits.isDigit = rest := by
  rw [List.takeWhile_append_of_pos (Digits.isDigit_of_mem_digits n),
    List.dropWhile_append_of_pos (Digits.isDigit_of_mem_digits n)]
  cases rest with
  | nil => exact ⟨List.append_nil _, rfl⟩
  | cons c rest =>
      have other : ¬Digits.isDigit c = true := by simp [(stops c rfl).1]
      rw [List.takeWhile_cons_of_neg other, List.dropWhile_cons_of_neg other]
      exact ⟨List.append_nil _, rfl⟩

/-- A whole number is read: a leading zero stands by itself. -/
theorem readWhole_digits (n : Nat) {rest : List Char} (stops : Stops rest) :
    readWhole (Digits.digits n ++ rest) = .ok (Digits.digits n, rest) := by
  obtain ⟨taken, left⟩ := takeWhile_digits n stops
  rcases written : Digits.digits n with _ | ⟨c, cs⟩
  · exact absurd written (digits_ne_nil n)
  · have digit : Digits.isDigit c = true :=
      Digits.isDigit_of_mem_digits n c (by rw [written]; exact List.mem_cons_self)
    rw [written, List.cons_append] at taken left
    have digits : readDigits (c :: (cs ++ rest)) = .ok (c :: cs, rest) := by
      rw [readDigits, if_pos digit, taken, left]
    rw [List.cons_append, readWhole, digits]
    simp only [bind, Except.bind]
    split
    · rename_i zero
      rw [zero] at written
      cases digits_eq_zero written
    · rfl

/-- A whole number within sixty-four bits is read as that number. -/
theorem readNumber_digits {n : Nat} (fits : n ≤ maxNatural) {rest : List Char}
    (stops : Stops rest) :
    readNumber false (Digits.digits n ++ rest) = .ok (some (.natural n), rest) := by
  have fraction : readFraction rest = .ok ([], rest) := by
    unfold readFraction
    split
    · exact absurd rfl (stops '.' rfl).2.1
    · rfl
  have exponent : readExponent rest = .ok (none, rest) := by
    unfold readExponent
    split
    · rename_i c rest
      obtain ⟨-, -, small, large⟩ := stops c rfl
      rw [if_neg (by simp [small, large])]
    · rfl
  have number : number? false (Digits.digits n) [] none = some (.natural n) := by
    simp [number?, Digits.value_digits, fits]
  rw [readNumber, readWhole_digits n stops]
  show (readFraction rest >>= _) = _
  rw [fraction]
  show (readExponent rest >>= _) = _
  rw [exponent]
  exact congrArg (fun n => Except.ok (n, rest)) number

/-! ## Values

`Reads` is what the induction over values needs of each part: enough fuel, and whatever follows
left as it is. -/

/-- What the reader makes of a text that is a value: it finds the value, and whatever follows. -/
structure Reads (v : Json) (text : List Char) : Prop where
  /-- Neither a blank nor the end of a list. -/
  starts : ∃ c rest, text = c :: rest ∧ isSpace c = false ∧ c ≠ ']'
  read : ∀ fuel after, text.length < fuel → Stops after →
    readValue fuel (text ++ after) = .ok (draft v, after)

theorem readValue_append {gap : List Char} (blank : Blank gap) (fuel : Nat) (cs : List Char) :
    readValue fuel (gap ++ cs) = readValue fuel cs := by
  cases fuel with
  | zero => rw [readValue, readValue]
  | succ fuel => rw [readValue, readValue, skipSpace_append blank]

/-- A value that starts with a character that is no blank is read from there on. -/
theorem Reads.of_succ {v : Json} {c : Char} {rest : List Char} (solid : isSpace c = false)
    (other : c ≠ ']') (read : ∀ fuel after, rest.length < fuel → Stops after →
      readValue (fuel + 1) (c :: rest ++ after) = .ok (draft v, after)) : Reads v (c :: rest) where
  starts := ⟨c, rest, rfl, solid, other⟩
  read := by
    intro fuel after enough stops
    cases fuel with
    | zero => cases enough
    | succ fuel =>
        rw [List.length_cons] at enough
        exact read fuel after (by omega) stops

theorem reads_null : Reads .null ['n', 'u', 'l', 'l'] :=
  .of_succ (by decide) (by decide) fun fuel after _ _ => by
    rw [readValue]
    rfl

theorem reads_bool (b : Bool) : Reads (.bool b) (print (.bool b)) := by
  cases b with
  | true =>
      rw [print]
      exact .of_succ (by decide) (by decide) fun fuel after _ _ => by
        rw [readValue]
        rfl
  | false =>
      rw [print]
      exact .of_succ (by decide) (by decide) fun fuel after _ _ => by
        rw [readValue]
        rfl

/-- A number within sixty-four bits is read from its digits. -/
theorem reads_natural {n : Nat} (fits : n ≤ maxNatural) :
    Reads (.number (.natural n)) (Digits.digits n) := by
  rcases written : Digits.digits n with _ | ⟨c, rest⟩
  · exact absurd written (digits_ne_nil n)
  · have digit : Digits.isDigit c = true :=
      Digits.isDigit_of_mem_digits n c (by rw [written]; exact List.mem_cons_self)
    have other {e : Char} (none : Digits.isDigit e = false) : c ≠ e := by
      rintro rfl
      cases none.symm.trans digit
    have solid : isSpace c = false := by
      simp [isSpace, other (e := ' ') rfl, other (e := '\t') rfl, other (e := '\n') rfl,
        other (e := '\r') rfl]
    refine .of_succ solid (other rfl) fun fuel after _ stops => ?_
    have number := readNumber_digits fits stops
    rw [written, List.cons_append] at number
    rw [readValue.eq_def]
    simp only [List.cons_append, skipSpace_cons solid]
    split
    case h_1 same => cases same
    case h_9 same =>
      obtain ⟨rfl, rfl⟩ := List.cons.inj same
      rw [if_pos digit, number]
      rfl
    all_goals
      rename_i same
      exact absurd (List.cons.inj same).1 (other rfl)

theorem reads_text (s : String) : Reads (.text s) (printText s) := by
  have quoted : printText s = '"' :: (s.toList.flatMap escapeChar ++ ['"']) := rfl
  rw [quoted]
  refine .of_succ (by decide) (by decide) fun fuel after _ _ => ?_
  rw [List.cons_append, List.append_assoc, readValue]
  show (readText (s.toList.flatMap escapeChar ++ '"' :: after)).map _ = _
  rw [readText_printText]
  rfl

/-! ## Lists

Items are read up to the closing bracket.  The reader comes back to the same point after each
comma, and that point is `ReadsItems`. -/

/-- Blanks end a number, and so does what stops it behind them. -/
theorem stops_append {gap cs : List Char} (blank : Blank gap) (stops : Stops cs) :
    Stops (gap ++ cs) := by
  cases gap with
  | nil => exact stops
  | cons c rest =>
      rintro _ ⟨⟩
      have space := blank c List.mem_cons_self
      simp only [isSpace, Bool.or_eq_true, decide_eq_true_eq] at space
      rcases space with ((rfl | rfl) | rfl) | rfl <;> decide

/-- What the reader makes of the rest of a list, up to its end, when it has read an item. -/
structure ReadsItems (rest : List Json) (text : List Char) : Prop where
  ends : 0 < text.length
  stops : ∀ after, Stops (text ++ after)
  read : ∀ v fuel cs after, text.length ≤ fuel →
    readValue fuel cs = .ok (draft v, text ++ after) →
    readItems (fuel + 1) cs = .ok (draftItems (v :: rest), after)

/-- What the reader makes of all items. -/
theorem ReadsItems.all {cs ds : List Char} {v : Json} {rest : List Json}
    (more : ReadsItems rest ds) (first : Reads v cs) (fuel : Nat) (after : List Char)
    (enough : cs.length + ds.length < fuel) :
    readItems fuel (cs ++ (ds ++ after)) = .ok (draftItems (v :: rest), after) := by
  have ends := more.ends
  cases fuel with
  | zero => cases enough
  | succ fuel =>
      exact more.read v fuel _ after (by omega) (first.read fuel _ (by omega) (more.stops after))

theorem readsItems_close {gap : List Char} (blank : Blank gap) : ReadsItems [] (gap ++ [']']) where
  ends := by simp
  stops := fun after => by
    rw [List.append_assoc]
    refine stops_append blank ?_
    rintro _ ⟨⟩
    decide
  read := fun v fuel cs after _ first => by
    rw [readItems, first]
    simp only [List.append_assoc, skipSpace_append blank]
    rfl

theorem readsItems_item {gap cs ds : List Char} {v : Json} {rest : List Json} (blank : Blank gap)
    (first : Reads v cs) (more : ReadsItems rest ds) :
    ReadsItems (v :: rest) (',' :: gap ++ cs ++ ds) where
  ends := Nat.succ_pos _
  stops := fun after => by
    rintro _ ⟨⟩
    decide
  read := fun u fuel text after enough before => by
    obtain ⟨c, cs', starts, solid, other⟩ := first.starts
    simp only [List.length_append, List.length_cons] at enough
    have next := more.all first fuel after (by omega)
    rw [readItems, before]
    simp only [List.cons_append, List.append_assoc]
    rw [skipSpace_cons (by decide)]
    simp only [skipSpace_append blank]
    rw [starts, List.cons_append] at next ⊢
    rw [skipSpace_cons solid]
    split
    · rename_i none
      cases none
    · rename_i ends
      exact absurd (List.cons.inj ends).1 other
    · rw [next]
      rfl

theorem reads_nil : Reads (.list []) ['[', ']'] :=
  .of_succ (by decide) (by decide) fun fuel after _ _ => by
    rw [readValue]
    rfl

theorem reads_list {gap cs ds : List Char} {v : Json} {rest : List Json} (blank : Blank gap)
    (first : Reads v cs) (more : ReadsItems rest ds) :
    Reads (.list (v :: rest)) ('[' :: gap ++ cs ++ ds) := by
  refine .of_succ (by decide) (by decide) fun fuel after enough _ => ?_
  obtain ⟨c, cs', starts, solid, other⟩ := first.starts
  simp only [List.append_eq, List.length_append] at enough
  have items := more.all first fuel after (by omega)
  rw [readValue, List.cons_append, skipSpace_cons (by decide)]
  simp only [List.append_eq, List.append_assoc, skipSpace_append blank]
  rw [starts, List.cons_append] at items ⊢
  rw [skipSpace_cons solid]
  split
  · rename_i ends
    exact absurd (List.cons.inj ends).1 other
  · rename_i none
    cases none
  · rw [items]
    rfl

/-! ## Objects

The same with a name and a colon in front of each value. -/

/-- What the reader makes of the rest of an object, up to its end, when it has read the value of a
field. -/
structure ReadsFields (rest : List (String × Json)) (text : List Char) : Prop where
  ends : 0 < text.length
  stops : ∀ after, Stops (text ++ after)
  read : ∀ k v fuel cs after, text.length ≤ fuel →
    readValue fuel cs = .ok (draft v, text ++ after) →
    readFields (fuel + 1) (printText k ++ ':' :: cs) = .ok (draftFields ((k, v) :: rest), after)

theorem readFields_append {gap : List Char} (blank : Blank gap) (fuel : Nat) (cs : List Char) :
    readFields fuel (gap ++ cs) = readFields fuel cs := by
  cases fuel with
  | zero => rw [readFields, readFields]
  | succ fuel => rw [readFields, readFields, skipSpace_append blank]

/-- What the reader makes of all fields. -/
theorem ReadsFields.all {gap cs ds : List Char} {v : Json} {rest : List (String × Json)}
    (more : ReadsFields rest ds) (blank : Blank gap) (first : Reads v cs) (k : String) (fuel : Nat)
    (after : List Char) (enough : cs.length + ds.length < fuel) :
    readFields fuel (printText k ++ ':' :: (gap ++ (cs ++ (ds ++ after))))
      = .ok (draftFields ((k, v) :: rest), after) := by
  have ends := more.ends
  cases fuel with
  | zero => cases enough
  | succ fuel =>
      refine more.read k v fuel _ after (by omega) ?_
      rw [readValue_append blank]
      exact first.read fuel _ (by omega) (more.stops after)

/-- A field that is the last one. -/
theorem readFields_last (k : String) {fuel : Nat} {cs rest after : List Char} {v : Json}
    (first : readValue fuel cs = .ok (draft v, rest)) (ends : skipSpace rest = '\x7d' :: after) :
    readFields (fuel + 1) (printText k ++ ':' :: cs) = .ok ([(some k, draft v)], after) := by
  rw [printText_append, readFields, skipSpace_cons (by decide)]
  simp only [readText_printText]
  rw [skipSpace_cons (by decide)]
  simp only [first, ends]

/-- A field that is followed by others. -/
theorem readFields_more (k : String) {fuel : Nat} {cs rest more after : List Char} {v : Json}
    {fields : List (String × Json)} (first : readValue fuel cs = .ok (draft v, rest))
    (comma : skipSpace rest = ',' :: more)
    (next : readFields fuel more = .ok (draftFields fields, after)) :
    readFields (fuel + 1) (printText k ++ ':' :: cs)
      = .ok (draftFields ((k, v) :: fields), after) := by
  rw [printText_append, readFields, skipSpace_cons (by decide)]
  simp only [readText_printText]
  rw [skipSpace_cons (by decide)]
  simp only [first, comma, next]
  rfl

theorem readsFields_close {gap : List Char} (blank : Blank gap) :
    ReadsFields [] (gap ++ ['}']) where
  ends := by simp
  stops := fun after => by
    rw [List.append_assoc]
    refine stops_append blank ?_
    rintro _ ⟨⟩
    decide
  read := fun k v fuel cs after _ first => by
    refine readFields_last k first ?_
    rw [List.append_assoc, skipSpace_append blank]
    rfl

theorem readsFields_field {gap gap' cs ds : List Char} {k : String} {v : Json}
    {rest : List (String × Json)} (blank : Blank gap) (blank' : Blank gap') (first : Reads v cs)
    (more : ReadsFields rest ds) :
    ReadsFields ((k, v) :: rest) (',' :: gap ++ printText k ++ ':' :: gap' ++ cs ++ ds) where
  ends := Nat.succ_pos _
  stops := fun after => by
    rintro _ ⟨⟩
    decide
  read := fun j u fuel text after enough before => by
    simp only [List.length_append, List.length_cons] at enough
    have next := more.all blank' first k fuel after (by omega)
    have text : (',' :: gap ++ printText k ++ ':' :: gap' ++ cs ++ ds) ++ after
        = ',' :: (gap ++ (printText k ++ ':' :: (gap' ++ (cs ++ (ds ++ after))))) := by
      simp
    rw [text] at before
    exact readFields_more j before (skipSpace_cons (by decide) _)
      ((readFields_append blank fuel _).trans next)

theorem reads_empty : Reads (.object []) ['\x7b', '\x7d'] :=
  .of_succ (by decide) (by decide) fun fuel after _ _ => by
    rw [readValue]
    rfl

theorem reads_object {gap gap' cs ds : List Char} {k : String} {v : Json}
    {rest : List (String × Json)} (blank : Blank gap) (blank' : Blank gap') (first : Reads v cs)
    (more : ReadsFields rest ds) :
    Reads (.object ((k, v) :: rest))
      ('\x7b' :: gap ++ printText k ++ ':' :: gap' ++ cs ++ ds) := by
  refine .of_succ (by decide) (by decide) fun fuel after enough _ => ?_
  simp only [List.append_eq, List.length_append, List.length_cons] at enough
  have fields := more.all blank' first k fuel after (by omega)
  rw [printText_append] at fields
  rw [readValue, List.cons_append, skipSpace_cons (by decide)]
  simp only [List.append_eq, List.append_assoc, List.cons_append, skipSpace_append blank,
    printText_append]
  rw [skipSpace_cons (by decide)]
  show (readFields fuel _).map _ = _
  rw [fields]
  rfl

/-! ## Whole texts -/

/-- A text that reads as a value stands for it. -/
theorem Reads.readDraft {v : Json} {text : List Char} (reads : Reads v text) :
    readDraft text = .ok (draft v, []) := by
  have read := reads.read (text.length + 1) [] (Nat.lt_succ_self _) stops_nil
  rwa [List.append_nil] at read

end LanguageBridge.Json
