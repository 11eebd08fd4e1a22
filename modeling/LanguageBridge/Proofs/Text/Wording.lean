import LanguageBridge.Binary64.Decimal
import LanguageBridge.Failure
import LanguageBridge.Text.Quoted

/-!
# Wordings that tell of an end

A wording tells of the end of a session if its lower case holds one of two words.  The lower case
of a text is not put together from those of its pieces, because of the final sigma; but neither of
the words has a sigma, so for finding them it may be taken letter by letter (`occursIn_lowerList`).

What matters for a wording that is put together from pieces is then where the pieces meet: a word
does not reach across a character that it does not hold and that case leaves alone, such as a
blank, a comma or a quotation mark (`tellsOfEnd_append_of_getLast`, `tellsOfEnd_append_of_head`).
Numbers tell of nothing, and a quoted text tells of what the text itself tells
(`tellsOfEnd_quote`).  Fixed wordings are in ASCII, for which no table of letters is needed
(`isMute`).

## Main definitions

* `Text.image` is the lower case of one character, the two sigmas not told apart.  It is one
  character for all but the dotted capital I.
* `Failure.tells` is searching for the two words in the images of some characters, and
  `tellsOfEnd_eq` says that it is what a wording is searched for.
* `Failure.Neutral` characters separate, `isMute` wordings and `Numeral`s tell of nothing.

A quoted text differs from the text in characters that were escaped.  These are not letters of the
words, and what they are replaced by begins with a neutral character and ends with one, and tells of
nothing in between (`quoteChar_cases`); so replacing them changes nothing.
-/

namespace LanguageBridge

namespace Text

/-! ## Searching letter by letter -/

/-- The final sigma taken for the ordinary one. -/
def unify (c : Char) : Char := if c = 'ς' then 'σ' else c

/-- The lower case of a character on its own, the two sigmas not told apart. -/
def image (c : Char) : List Char := (if c = 'Σ' then ['σ'] else lowerChar c).map unify

/-- The lower case of a text, without regard to which sigma it has, is taken letter by letter. -/
theorem map_unify_lowerAfter (before cs : List Char) :
    (lowerAfter before cs).map unify = cs.flatMap image := by
  induction cs generalizing before with
  | nil => rfl
  | cons c rest ih =>
    rw [lowerAfter, List.map_append, ih, List.flatMap_cons, image]
    congr 1
    split
    · split <;> rfl
    · rfl

/-- A word without a sigma. -/
def Plain (part : List Char) : Prop := 'σ' ∉ part ∧ 'ς' ∉ part

/-- Which sigma it was does not matter to a letter that is none. -/
theorem Plain.beq_unify {p : Char} {part : List Char} (plain : Plain (p :: part)) (c : Char) :
    (p == unify c) = (p == c) := by
  unfold unify
  split
  · rename_i final
    subst final
    have ordinary : p ≠ 'σ' := fun same => plain.1 (same ▸ List.mem_cons_self)
    have last : p ≠ 'ς' := fun same => plain.2 (same ▸ List.mem_cons_self)
    rw [beq_false_of_ne ordinary, beq_false_of_ne last]
  · rfl

/-- A word without sigmas starts a text whether or not they are told apart. -/
theorem isPrefixOf_map_unify {part : List Char} (plain : Plain part) (cs : List Char) :
    part.isPrefixOf (cs.map unify) = part.isPrefixOf cs := by
  induction part generalizing cs with
  | nil => rfl
  | cons p part ih =>
    cases cs with
    | nil => rfl
    | cons c cs =>
      have rest : Plain part :=
        ⟨fun mem => plain.1 (List.mem_cons_of_mem _ mem),
          fun mem => plain.2 (List.mem_cons_of_mem _ mem)⟩
      rw [List.map_cons, List.isPrefixOf, List.isPrefixOf, plain.beq_unify, ih rest]

/-- It stands in a text whether or not they are told apart. -/
theorem occursIn_map_unify {part : List Char} (plain : Plain part) (cs : List Char) :
    occursIn part (cs.map unify) = occursIn part cs := by
  induction cs with
  | nil => rfl
  | cons c rest ih =>
    rw [List.map_cons, occursIn, occursIn, ih, ← List.map_cons, isPrefixOf_map_unify plain]

/-- A word without a sigma is found in the lower case of a text as if every letter had one of its
own. -/
theorem occursIn_lowerList {part : List Char} (plain : Plain part) (cs : List Char) :
    occursIn part (lowerList cs) = occursIn part (cs.flatMap image) := by
  rw [← occursIn_map_unify plain, lowerList, map_unify_lowerAfter]

/-! ## ASCII

In ASCII a capital becomes the letter thirty-two places behind it and everything else stays.  The
table of letters is needed only to see that no other run of it reaches down here. -/

/-- The run of the Latin capitals. -/
def latin : CaseRun := ⟨0x41, 0x5A, 1, 32⟩

/-- All other runs lie beyond ASCII. -/
theorem find_lowerCaseRuns_of_ascii {n : Nat} (ascii : n < 128) :
    lowerCaseRuns.find? (·.moves n) = if latin.moves n then some latin else none := by
  have beyond : (lowerCaseRuns.tail.all fun r => 128 ≤ r.first) = true := by decide
  have others : lowerCaseRuns.tail.find? (·.moves n) = none := by
    refine List.find?_eq_none.2 fun r mem moves => ?_
    have late : 128 ≤ r.first := of_decide_eq_true (List.all_eq_true.1 beyond r mem)
    have reached : r.first ≤ n := by
      simp only [CaseRun.moves, Bool.and_eq_true, decide_eq_true_eq] at moves
      exact moves.1.1
    omega
  rw [show lowerCaseRuns = latin :: lowerCaseRuns.tail from rfl, List.find?_cons, others]
  cases latin.moves n <;> rfl

theorem image_of_ascii {c : Char} (ascii : c.toNat < 128) : image c = [c.toLower] := by
  have notSigma : c ≠ 'Σ' := by
    rintro rfl
    exact absurd ascii (by decide)
  have notDotted : c ≠ 'İ' := by
    rintro rfl
    exact absurd ascii (by decide)
  have moved : ∀ n < 128,
      (if latin.moves n then [Char.ofNat ((n : Int) + latin.shift).toNat] else [Char.ofNat n]).map unify
        = [(Char.ofNat n).toLower] := by decide
  have own := moved c.toNat ascii
  rw [Char.ofNat_toNat] at own
  rw [image, if_neg notSigma, lowerChar, if_neg notDotted, find_lowerCaseRuns_of_ascii ascii, ← own]
  cases latin.moves c.toNat <;> rfl

/-! ## Where a word cannot reach across

A word that is found in two pieces put together is found in one of them or reaches across the
seam, and it does not if there is a character at the seam that it does not hold. -/

/-- A word that starts before a foreign character ends before it. -/
theorem isPrefixOf_append_cons {part : List Char} {c : Char} (foreign : c ∉ part)
    (xs ys : List Char) : part.isPrefixOf (xs ++ c :: ys) = part.isPrefixOf xs := by
  induction part generalizing xs with
  | nil => simp
  | cons p part ih =>
    cases xs with
    | nil =>
      have other : p ≠ c := fun same => foreign (same ▸ List.mem_cons_self)
      rw [List.nil_append, List.isPrefixOf_cons_cons, beq_false_of_ne other, Bool.false_and,
        List.isPrefixOf_cons_nil]
    | cons x xs =>
      rw [List.cons_append, List.isPrefixOf, List.isPrefixOf,
        ih fun mem => foreign (List.mem_cons_of_mem _ mem)]

/-- A word is not found across a character that it does not hold. -/
theorem occursIn_append_cons {part : List Char} {c : Char} (foreign : c ∉ part)
    (word : part ≠ []) (xs ys : List Char) :
    occursIn part (xs ++ c :: ys) = (occursIn part xs || occursIn part ys) := by
  induction xs with
  | nil =>
    have start := isPrefixOf_append_cons foreign [] ys
    have never : part.isPrefixOf [] = false := by
      cases part with
      | nil => exact absurd rfl word
      | cons p part => rfl
    have empty : part.isEmpty = false := List.isEmpty_eq_false_iff.2 word
    rw [List.nil_append, never] at start
    rw [List.nil_append, occursIn.eq_2, start, occursIn.eq_1, empty]
  | cons x xs ih =>
    rw [List.cons_append, occursIn, ih, ← List.cons_append, isPrefixOf_append_cons foreign,
      occursIn, Bool.or_assoc]

/-- The letters of a word that is found are there. -/
theorem mem_of_occursIn {part cs : List Char} (found : occursIn part cs = true) {c : Char}
    (mem : c ∈ part) : c ∈ cs := by
  obtain ⟨before, after, rfl⟩ := (occursIn_iff part cs).1 found
  exact List.mem_append_left _ (List.mem_append_right _ mem)

end Text

namespace Failure

open Text (image occursIn)

/-! ## What tells of an end -/

/-- Whether letters, taken one by one, tell of an end. -/
def tells (cs : List Char) : Bool :=
  occursIn "disposed".toList (cs.flatMap image) || occursIn "closed".toList (cs.flatMap image)

theorem tellsOfEnd_eq (wording : String) : tellsOfEnd wording = tells wording.toList := by
  simp only [tellsOfEnd, Text.occurs, Text.lower, String.toList_ofList]
  rw [Text.occursIn_lowerList ⟨by decide, by decide⟩, Text.occursIn_lowerList ⟨by decide, by decide⟩,
    tells]

/-- The letters of the two words. -/
def letters : List Char := "disopecl".toList

theorem mem_letters {x : Char} (mem : x ∈ "disposed".toList ∨ x ∈ "closed".toList) :
    x ∈ letters := by
  have all : (("disposed".toList ++ "closed".toList).all fun x => x ∈ letters) = true := by decide
  exact of_decide_eq_true (List.all_eq_true.1 all x (List.mem_append.2 mem))

/-- A character that stands in neither word, whatever its case. -/
def Neutral (c : Char) : Prop := ∃ x, image c = [x] ∧ x ∉ letters

theorem tells_append_cons {c : Char} (neutral : Neutral c) (xs ys : List Char) :
    tells (xs ++ c :: ys) = (tells xs || tells ys) := by
  obtain ⟨x, image_, foreign⟩ := neutral
  have first : x ∉ "disposed".toList := fun mem => foreign (mem_letters (.inl mem))
  have second : x ∉ "closed".toList := fun mem => foreign (mem_letters (.inr mem))
  simp only [tells, List.flatMap_append, List.flatMap_cons, image_, List.singleton_append,
    Text.occursIn_append_cons first (by decide), Text.occursIn_append_cons second (by decide)]
  rw [Bool.or_assoc, Bool.or_assoc, Bool.or_left_comm (occursIn _ (ys.flatMap image))]

/-- Characters without an o tell of nothing. -/
theorem tells_of_no_o {cs : List Char} (none : ∀ c ∈ cs, 'o' ∉ image c) : tells cs = false := by
  have absent : 'o' ∉ cs.flatMap image := by
    intro mem
    obtain ⟨c, there, o⟩ := List.mem_flatMap.1 mem
    exact none c there o
  rw [tells, Bool.or_eq_false_iff]
  constructor <;> refine Bool.eq_false_iff.2 fun found => absent ?_
  · exact Text.mem_of_occursIn found (by decide)
  · exact Text.mem_of_occursIn found (by decide)

theorem tells_nil : tells [] = false := rfl

/-- The marks between the pieces of a wording, and those of which an escape is made. -/
def marks : List Char := [' ', ',', '`', '"', '-', '\\', '{', '}', '0', 't', 'r', 'n']

theorem neutral_of_mark {c : Char} (mark : c ∈ marks) : Neutral c := by
  have all : (marks.all fun c => c.toNat < 128 ∧ c.toLower ∉ letters) = true := by decide
  obtain ⟨ascii, foreign⟩ := of_decide_eq_true (List.all_eq_true.1 all c mark)
  exact ⟨c.toLower, Text.image_of_ascii ascii, foreign⟩

variable {a b mid : String} {c d : Char}

/-- Two pieces of a wording tell what they tell apart if the first ends with a mark. -/
theorem tellsOfEnd_append_of_getLast (last : a.toList.getLast? = some c) (mark : c ∈ marks) :
    tellsOfEnd (a ++ b) = (tellsOfEnd a || tellsOfEnd b) := by
  obtain ⟨front, shape⟩ := List.getLast?_eq_some_iff.1 last
  simp only [tellsOfEnd_eq, String.toList_append, shape, List.append_assoc, List.singleton_append,
    tells_append_cons (neutral_of_mark mark), tells_nil, Bool.or_false]

/-- Two pieces of a wording tell what they tell apart if the second starts with a mark. -/
theorem tellsOfEnd_append_of_head (first : b.toList.head? = some c) (mark : c ∈ marks) :
    tellsOfEnd (a ++ b) = (tellsOfEnd a || tellsOfEnd b) := by
  obtain ⟨rest, shape⟩ := List.head?_eq_some_iff.1 first
  have whole := tells_append_cons (neutral_of_mark mark) [] rest
  rw [tells_nil, Bool.false_or, List.nil_append] at whole
  rw [tellsOfEnd_eq, tellsOfEnd_eq, tellsOfEnd_eq, String.toList_append, shape,
    tells_append_cons (neutral_of_mark mark), whole]

/-- A piece between two others that starts and ends with a mark. -/
theorem tellsOfEnd_between (first : mid.toList.head? = some c) (mark : c ∈ marks)
    (last : mid.toList.getLast? = some d) (mark' : d ∈ marks) :
    tellsOfEnd (a ++ mid ++ b) = (tellsOfEnd a || tellsOfEnd mid || tellsOfEnd b) := by
  have behind : (a ++ mid).toList.getLast? = some d := by
    rw [String.toList_append, List.getLast?_append, last]
    rfl
  rw [tellsOfEnd_append_of_getLast behind mark', tellsOfEnd_append_of_head first mark]

/-! ## Fixed wordings

For those that are written in the program it is decided by evaluation. -/

/-- Letters in ASCII that hold neither of the words, in whatever case.  This can be told without the
tables of letters. -/
def isMute (cs : List Char) : Bool :=
  cs.all (·.toNat < 128) && !occursIn "disposed".toList (cs.map Char.toLower) &&
    !occursIn "closed".toList (cs.map Char.toLower)

theorem tells_of_isMute {cs : List Char} (mute : isMute cs = true) : tells cs = false := by
  simp only [isMute, Bool.and_eq_true, Bool.not_eq_true', List.all_eq_true, decide_eq_true_eq]
    at mute
  obtain ⟨⟨ascii, first⟩, second⟩ := mute
  have lowered : cs.flatMap image = cs.map Char.toLower := by
    rw [List.map_eq_flatMap, List.flatMap_def, List.flatMap_def]
    exact congrArg List.flatten (List.map_congr_left fun c mem => Text.image_of_ascii (ascii c mem))
  rw [tells, lowered, first, second, Bool.or_false]

/-- So do mute wordings, which can be decided for each. -/
theorem tellsOfEnd_of_isMute {wording : String} (mute : isMute wording.toList = true) :
    tellsOfEnd wording = false :=
  (tellsOfEnd_eq wording).trans (tells_of_isMute mute)

/-! ## Numbers

Whatever number it is, it is written with a few characters, and there is no o among them, which
both of the words have. -/

/-- What numbers are written with. -/
def numerals : List Char := "0123456789abcdef.-".toList

/-- The characters of a written number. -/
def Numeral (cs : List Char) : Prop := ∀ c ∈ cs, c ∈ numerals

instance (cs : List Char) : Decidable (Numeral cs) := List.decidableBAll (· ∈ numerals) cs

namespace Numeral

variable {xs ys : List Char}

theorem append (front : Numeral xs) (back : Numeral ys) : Numeral (xs ++ ys) :=
  List.forall_mem_append.2 ⟨front, back⟩

theorem take (whole : Numeral xs) (n : Nat) : Numeral (xs.take n) :=
  fun c mem => whole c (List.mem_of_mem_take mem)

theorem drop (whole : Numeral xs) (n : Nat) : Numeral (xs.drop n) :=
  fun c mem => whole c (List.mem_of_mem_drop mem)

theorem replicate (n : Nat) {c : Char} (mem : c ∈ numerals) : Numeral (List.replicate n c) :=
  fun _ there => List.eq_of_mem_replicate there ▸ mem

theorem cons {c : Char} (mem : c ∈ numerals) (rest : Numeral xs) : Numeral (c :: xs) :=
  List.forall_mem_cons.2 ⟨mem, rest⟩

theorem digits (n : Nat) : Numeral (Digits.digits n) := by
  have all : ∀ k, k ≤ 57 → 48 ≤ k → Char.ofNat k ∈ numerals := by decide
  intro c mem
  have digit := Digits.isDigit_of_mem_digits n c mem
  simp only [Digits.isDigit, Bool.and_eq_true, decide_eq_true_eq] at digit
  exact Char.ofNat_toNat c ▸ all c.toNat digit.2 digit.1

theorem hex (n : Nat) : Numeral (Text.hex n) := by
  have all : ∀ d, d < 16 → Nat.digitChar d ∈ numerals := by decide
  unfold Text.hex
  induction n using Nat.strongRecOn with
  | _ n ih =>
    rw [Nat.toDigits_eq_if (by decide)]
    split
    · rename_i small
      exact cons (all n small) nofun
    · exact (ih (n / 16) (by omega)).append (cons (all _ (Nat.mod_lt _ (by decide))) nofun)

theorem place (m : Nat) (power : Int) : Numeral (Double.place m power) := by
  unfold Double.place
  simp only []
  split
  · exact ((digits m).append (replicate _ (by decide))).append (by decide)
  split
  · exact ((digits m).take _).append (cons (by decide) ((digits m).drop _))
  split
  · exact (append (by decide) (replicate _ (by decide))).append (digits m)
  · refine ((((digits m).take 1).append ?_).append (cons (by decide) ?_)).append (digits _)
    · split
      · exact nofun
      · exact cons (by decide) ((digits m).drop 1)
    · split <;> decide

theorem print (d : Double) : Numeral d.print := by
  have signed {cs : List Char} (rest : Numeral cs) :
      Numeral (if d.negative then '-' :: cs else cs) := by
    split
    · exact cons (by decide) rest
    · exact rest
  unfold Double.print
  refine signed ?_
  split
  · decide
  · exact place _ _

/-- Numbers tell of nothing, for there is no o in them. -/
theorem tells (number : Numeral xs) : tells xs = false := by
  have all : (numerals.all fun c => c.toNat < 128 ∧ 'o' ∉ [c.toLower]) = true := by decide
  refine tells_of_no_o fun c mem => ?_
  obtain ⟨ascii, none⟩ := of_decide_eq_true (List.all_eq_true.1 all c (number c mem))
  rwa [Text.image_of_ascii ascii]

end Numeral

/-! ## Quoted texts

The one place where what comes from outside gets into a wording. -/

/-- The letters that become letters of the words in lower case. -/
def capitals : List Char := "DISOPECL".toList

/-- A code that is not zero is that of its character. -/
theorem toNat_ofNat_of_ne_zero {n : Nat} (code : (Char.ofNat n).toNat ≠ 0) :
    (Char.ofNat n).toNat = n := by
  by_cases valid : n.isValidChar
  · have own : Char.ofNat n = Char.ofNatAux n valid := dif_pos valid
    rw [own]
    rfl
  · have replaced : Char.ofNat n = Char.ofNat 0 := dif_neg valid
    rw [replaced] at code
    exact absurd rfl code

/-- A run of capitals that reaches a letter of the words reaches it from its own capital. -/
theorem capital_of_run {r : Text.CaseRun} (run : r ∈ Text.lowerCaseRuns) {c : Char}
    (moves : r.moves c.toNat = true)
    (letter : Char.ofNat ((c.toNat : Int) + r.shift).toNat ∈ letters) : c ∈ capitals := by
  have all : (Text.lowerCaseRuns.all fun r => letters.all fun l =>
      r.moves ((l.toNat : Int) - r.shift).toNat = true →
        Char.ofNat ((l.toNat : Int) - r.shift).toNat ∈ capitals) = true := by decide +kernel
  have positive : (letters.all fun l => l.toNat ≠ 0) = true := by decide
  have nonzero := of_decide_eq_true (List.all_eq_true.1 positive _ letter)
  have code := toNat_ofNat_of_ne_zero nonzero
  have back : (((Char.ofNat ((c.toNat : Int) + r.shift).toNat).toNat : Int) - r.shift).toNat
      = c.toNat := by omega
  have capital := of_decide_eq_true (List.all_eq_true.1 (List.all_eq_true.1 all r run) _ letter)
  rw [back, Char.ofNat_toNat] at capital
  exact capital moves

/-- All characters but one have an image of one letter. -/
theorem image_eq_singleton {c : Char} (other : c ≠ 'İ') : ∃ x, image c = [x] := by
  unfold image
  split
  · exact ⟨_, rfl⟩
  · unfold Text.lowerChar
    rw [if_neg other]
    split <;> exact ⟨_, rfl⟩

/-- Only letters of the Latin alphabet become letters of the words, and those are shown as they
are. -/
theorem quoteChar_of_letter {c x : Char} (image_ : image c = [x]) (letter : x ∈ letters) :
    Text.quoteChar c = [c] := by
  have each : ((capitals ++ letters).all fun c => Text.quoteChar c = [c]) = true := by
    decide +kernel
  have shown (c : Char) (mem : c ∈ capitals ++ letters) : Text.quoteChar c = [c] :=
    of_decide_eq_true (List.all_eq_true.1 each c mem)
  have unified (y : Char) (mem : Text.unify y ∈ letters) : y ∈ letters := by
    unfold Text.unify at mem
    split at mem
    · exact absurd mem (by decide)
    · exact mem
  unfold image at image_
  split at image_
  · rw [← List.head_eq_of_cons_eq image_] at letter
    exact absurd letter (by decide)
  unfold Text.lowerChar at image_
  split at image_
  · cases image_
  split at image_
  · rename_i r found
    rw [← List.head_eq_of_cons_eq image_] at letter
    have moves : r.moves c.toNat = true := by simpa using List.find?_some found
    exact shown c (List.mem_append_left _
      (capital_of_run (List.mem_of_find?_eq_some found) moves (unified _ letter)))
  · rw [← List.head_eq_of_cons_eq image_] at letter
    exact shown c (List.mem_append_right _ (unified c letter))

/-- A character is shown as it is, or by an escape that tells of nothing. -/
theorem quoteChar_cases (c : Char) :
    Text.quoteChar c = [c] ∨
      Neutral c ∧ ∃ middle last, Text.quoteChar c = '\\' :: (middle ++ [last]) ∧
        tells middle = false ∧ Neutral last := by
  by_cases shown : Text.quoteChar c = [c]
  · exact .inl shown
  refine .inr ⟨?_, ?_⟩
  · obtain ⟨x, single⟩ := image_eq_singleton (c := c) fun dotted =>
      shown (dotted ▸ by decide +kernel)
    exact ⟨x, single, fun letter => shown (quoteChar_of_letter single letter)⟩
  · unfold Text.quoteChar at shown ⊢
    split
    · exact ⟨[], '0', rfl, rfl, neutral_of_mark (by decide)⟩
    split
    · exact ⟨[], 't', rfl, rfl, neutral_of_mark (by decide)⟩
    split
    · exact ⟨[], 'r', rfl, rfl, neutral_of_mark (by decide)⟩
    split
    · exact ⟨[], 'n', rfl, rfl, neutral_of_mark (by decide)⟩
    split
    · exact ⟨[], '\\', rfl, rfl, neutral_of_mark (by decide)⟩
    split
    · exact ⟨[], '"', rfl, rfl, neutral_of_mark (by decide)⟩
    split
    · refine ⟨'u' :: '{' :: Text.hex c.toNat, '}', rfl, ?_, neutral_of_mark (by decide)⟩
      exact (tells_append_cons (neutral_of_mark (by decide)) ['u'] (Text.hex c.toNat)).trans
        (by rw [(Numeral.hex _).tells, tells_of_isMute (by decide), Bool.false_or])
    · exact absurd (by simp [*]) shown

/-- Quoting the characters of a text does not change what it tells, whatever stands in front. -/
theorem tells_flatMap_quoteChar (front cs : List Char) :
    tells (front ++ cs.flatMap Text.quoteChar) = tells (front ++ cs) := by
  induction cs generalizing front with
  | nil => rfl
  | cons c rest ih =>
    rw [List.flatMap_cons]
    obtain shown | ⟨neutral, middle, last, escaped, mute, closing⟩ := quoteChar_cases c
    · rw [shown, ← List.append_assoc, ih, List.append_assoc, List.singleton_append]
    · have opening : Neutral '\\' := neutral_of_mark (by decide)
      have behind := ih []
      rw [List.nil_append, List.nil_append] at behind
      rw [escaped, List.cons_append, tells_append_cons opening, List.append_assoc,
        List.singleton_append, tells_append_cons closing, mute, Bool.false_or, behind,
        tells_append_cons neutral]

/-- A quoted text tells of what the text tells. -/
theorem tellsOfEnd_quote (s : String) : tellsOfEnd (Text.quote s) = tellsOfEnd s := by
  have mark : Neutral '"' := neutral_of_mark (by decide)
  have shown := tells_flatMap_quoteChar [] s.toList
  have opened := tells_append_cons mark [] (s.toList.flatMap Text.quoteChar ++ ['"'])
  rw [List.nil_append, tells_nil, Bool.false_or] at opened
  rw [tellsOfEnd_eq, tellsOfEnd_eq, Text.quote, String.toList_ofList, List.cons_append, opened,
    tells_append_cons mark, tells_nil, Bool.or_false]
  exact shown

/-! ## Undecodable replies -/

/-- What is put in front of the reason tells of nothing. -/
theorem isStale_undecodable (reason : String) :
    (Failure.undecodable reason).isStale = tellsOfEnd reason := by
  have worded : (Failure.undecodable reason).isStale =
    tellsOfEnd ("Failed to parse LSP response: " ++ reason) := rfl
  rw [worded, tellsOfEnd_append_of_getLast (c := ' ') (by decide) (by decide),
    tellsOfEnd_of_isMute (by decide), Bool.false_or]

end Failure
end LanguageBridge
