import LanguageBridge.Json.Decoder
import LanguageBridge.Proofs.Text.Wording

/-!
# What the wording of a fault gives away

The wording of a fault is put together from fixed words, names of the types and fields that were
expected, numbers, and at most one text of the value that did not decode.  If the names do not tell
of the end of a session, the wording does so exactly if the quoted text does
(`Fault.tellsOfEnd_message`).

`Decoder.Quotes` says of a decoder that its names tell of nothing and that it quotes only texts that
stand in the value; it holds of every decoder that is put together from such decoders.  Where a type
has alternatives, the fault names the type only, and nothing is quoted.

## Why wordings matter

A reply that does not decode fails its request with the wording of the fault, and a failure whose
wording tells of a closed connection or of a session that was disposed of is taken for the end of
the session.  So a text from the server may end a session just by being quoted where something else
was expected.  The lemmas here say which texts can.

## How it is shown

Searching a wording for words is awkward where two pieces meet, so a piece is bounded by a character
that none of the words has, a blank or an accent, and then what is told is told by one of the
pieces.  Names are asked to be `isMute`, which is decided for each of them, and numbers are
`Failure.Numeral`.
-/

namespace LanguageBridge.Json

open Failure (tellsOfEnd isMute tellsOfEnd_of_isMute)

/-! ## Wordings

Where in a wording the quoted text stands, and what else is there. -/

/-- The text that the wording of what was found quotes. -/
def Found.quoted? : Found → Option String
  | .string s => some s
  | _ => none

/-- The text of the value that the wording of a fault quotes. -/
def Fault.quoted? : Fault → Option String
  | .wrongType found _ => found.quoted?
  | .wrongValue found _ => found.quoted?
  | _ => none

/-- The names in the wording of a fault tell of nothing. -/
def Fault.Discreet : Fault → Prop
  | .malformed => True
  | .wrongType _ expected => tellsOfEnd expected = false
  | .wrongValue _ expected => tellsOfEnd expected = false
  | .missingField name => tellsOfEnd name = false
  | .duplicateField name => tellsOfEnd name = false
  | .wrongLength _ expected => tellsOfEnd expected = false
  | .unknownVariant _ _ => False
  | .noVariant type => tellsOfEnd type = false

theorem tellsOfEnd_ofList {cs : List Char} (number : Failure.Numeral cs) :
    tellsOfEnd (String.ofList cs) = false := by
  rw [Failure.tellsOfEnd_eq, String.toList_ofList, number.tells]

/-- What is written between accents tells of an end if what stands there does. -/
theorem tellsOfEnd_accents (opening : String) {name : String}
    (last : opening.toList.getLast? = some '`') :
    tellsOfEnd (opening ++ name ++ "`") = (tellsOfEnd opening || tellsOfEnd name) := by
  rw [Failure.tellsOfEnd_append_of_head (c := '`') (by decide) (by decide),
    Failure.tellsOfEnd_append_of_getLast last (by decide),
    show tellsOfEnd "`" = false from tellsOfEnd_of_isMute (by decide), Bool.or_false]

/-- The wording of what was found tells of an end only through the text that it quotes. -/
theorem Found.tellsOfEnd_message (found : Found) :
    tellsOfEnd found.message = found.quoted?.any tellsOfEnd := by
  cases found with
  | null => exact tellsOfEnd_of_isMute (by decide)
  | boolean b => cases b <;> exact tellsOfEnd_of_isMute (by decide)
  | integer n =>
    have signed (sign : String) (last : ("integer `" ++ sign).toList.getLast? = some '`' ∨
          ("integer `" ++ sign).toList.getLast? = some '-')
        (mute : tellsOfEnd ("integer `" ++ sign) = false) :
        tellsOfEnd ("integer `" ++ sign ++ Digits.render n.natAbs ++ "`") = false := by
      rw [Failure.tellsOfEnd_append_of_head (c := '`') (by decide) (by decide), Digits.render]
      have split : tellsOfEnd ("integer `" ++ sign ++ String.ofList (Digits.digits n.natAbs))
          = false := by
        rcases last with last | last <;>
          rw [Failure.tellsOfEnd_append_of_getLast last (by decide), mute,
            tellsOfEnd_ofList (.digits _), Bool.or_false]
      rw [split, Bool.false_or]
      exact tellsOfEnd_of_isMute (by decide)
    change tellsOfEnd ("integer `" ++ (if n < 0 then "-" else "") ++ Digits.render n.natAbs ++ "`")
      = false
    split
    · exact signed "-" (by decide) (tellsOfEnd_of_isMute (by decide))
    · exact signed "" (by decide) (tellsOfEnd_of_isMute (by decide))
  | floating d =>
    refine (tellsOfEnd_accents "floating point `" (by decide)).trans ?_
    rw [tellsOfEnd_ofList (.print d), Bool.or_false]
    exact tellsOfEnd_of_isMute (by decide)
  | string s =>
    refine (Failure.tellsOfEnd_append_of_getLast (c := ' ') (a := "string ") (by decide)
      (by decide)).trans ?_
    rw [Failure.tellsOfEnd_quote]
    exact congrArg (· || tellsOfEnd s) (tellsOfEnd_of_isMute (by decide) : tellsOfEnd "string " = false)
  | sequence => exact tellsOfEnd_of_isMute (by decide)
  | map => exact tellsOfEnd_of_isMute (by decide)

/-- What was found and what was expected instead. -/
theorem tellsOfEnd_expected (opening : String) {found expected : String}
    (last : opening.toList.getLast? = some ' ') (mute : tellsOfEnd opening = false)
    (discreet : tellsOfEnd expected = false) :
    tellsOfEnd (opening ++ found ++ ", expected " ++ expected) = tellsOfEnd found := by
  rw [Failure.tellsOfEnd_between (c := ',') (d := ' ') (by decide) (by decide) (by decide)
      (by decide), Failure.tellsOfEnd_append_of_getLast last (by decide), mute, discreet,
    show tellsOfEnd ", expected " = false from tellsOfEnd_of_isMute (by decide),
    Bool.false_or, Bool.or_false, Bool.or_false]

/-- The wording of a fault tells of an end exactly if the text that it quotes does. -/
theorem Fault.tellsOfEnd_message {fault : Fault} (discreet : fault.Discreet) :
    tellsOfEnd fault.message = fault.quoted?.any tellsOfEnd := by
  cases fault with
  | malformed => exact tellsOfEnd_of_isMute (by decide)
  | wrongType found expected =>
    exact (tellsOfEnd_expected "invalid type: " (by decide)
      (tellsOfEnd_of_isMute (by decide)) discreet).trans found.tellsOfEnd_message
  | wrongValue found expected =>
    exact (tellsOfEnd_expected "invalid value: " (by decide)
      (tellsOfEnd_of_isMute (by decide)) discreet).trans found.tellsOfEnd_message
  | missingField name =>
    refine (tellsOfEnd_accents "missing field `" (by decide)).trans ?_
    rw [discreet, Bool.or_false]
    exact tellsOfEnd_of_isMute (by decide)
  | duplicateField name =>
    refine (tellsOfEnd_accents "duplicate field `" (by decide)).trans ?_
    rw [discreet, Bool.or_false]
    exact tellsOfEnd_of_isMute (by decide)
  | wrongLength count expected =>
    exact (tellsOfEnd_expected "invalid length " (by decide)
      (tellsOfEnd_of_isMute (by decide)) discreet).trans (tellsOfEnd_ofList (.digits count))
  | unknownVariant name known => exact discreet.elim
  | noVariant type =>
    refine (Failure.tellsOfEnd_append_of_getLast (c := ' ')
      (a := "data did not match any variant of untagged enum ") (by decide) (by decide)).trans ?_
    rw [discreet, Bool.or_false]
    exact tellsOfEnd_of_isMute (by decide)

/-! ## The texts of a value

What could be quoted at all.  Names of fields are not counted, since no fault quotes them. -/

/-- A text stands somewhere in a draft, other than as the name of a field. -/
inductive Draft.Holds (s : String) : Draft → Prop where
  | text : Draft.Holds s (.text (some s))
  | item {items : List Draft} {d : Draft} (mem : d ∈ items) (holds : d.Holds s) :
      Draft.Holds s (.list items)
  | field {fields : List (Option String × Draft)} {key : Option String} {d : Draft}
      (mem : (key, d) ∈ fields) (holds : d.Holds s) : Draft.Holds s (.object fields)

/-- A text stands somewhere in a value, other than as the name of a field. -/
inductive Holds (s : String) : Json → Prop where
  | text : Holds s (.text s)
  | item {items : List Json} {v : Json} (mem : v ∈ items) (holds : Holds s v) : Holds s (.list items)
  | field {fields : List (String × Json)} {key : String} {v : Json} (mem : (key, v) ∈ fields)
      (holds : Holds s v) : Holds s (.object fields)

/-- An item of a draft comes from an item of the value. -/
theorem mem_draftItems {d : Draft} {items : List Json} (mem : d ∈ draftItems items) :
    ∃ v ∈ items, draft v = d := by
  induction items with
  | nil => cases mem
  | cons v rest ih =>
    rcases List.mem_cons.1 mem with rfl | later
    · exact ⟨v, List.mem_cons_self, rfl⟩
    · obtain ⟨v, there, same⟩ := ih later
      exact ⟨v, List.mem_cons_of_mem _ there, same⟩

/-- A field of a draft comes from a field of the value. -/
theorem mem_draftFields {key : Option String} {d : Draft} {fields : List (String × Json)}
    (mem : (key, d) ∈ draftFields fields) : ∃ k v, (k, v) ∈ fields ∧ draft v = d := by
  induction fields with
  | nil => cases mem
  | cons field rest ih =>
    obtain ⟨k, v⟩ := field
    rcases List.mem_cons.1 mem with same | later
    · exact ⟨k, v, List.mem_cons_self, (Prod.mk.inj same).2.symm⟩
    · obtain ⟨k, v, there, same⟩ := ih later
      exact ⟨k, v, List.mem_cons_of_mem _ there, same⟩

/-- The texts of the draft of a value are those of the value. -/
theorem holds_of_draft {s : String} {v : Json} (holds : (draft v).Holds s) : v.Holds s := by
  generalize same : draft v = d at holds
  induction holds generalizing v with
  | text =>
    cases v with
    | text s' =>
      cases same
      exact .text
    | _ => cases same
  | item mem _ ih =>
    cases v with
    | list items =>
      cases same
      obtain ⟨v, there, rfl⟩ := mem_draftItems mem
      exact .item there (ih rfl)
    | _ => cases same
  | field mem _ ih =>
    cases v with
    | object fields =>
      cases same
      obtain ⟨k, v, there, rfl⟩ := mem_draftFields mem
      exact .field there (ih rfl)
    | _ => cases same

/-! ## What decoders quote

One lemma for each way to make a decoder from others, so that what a type quotes follows from how
its decoder is put together. -/

/-- A fault whose names tell of nothing and that quotes at most a text of some kind. -/
structure Fault.Quoting (texts : String → Prop) (fault : Fault) : Prop where
  discreet : fault.Discreet
  quoted : ∀ s, fault.quoted? = some s → texts s

namespace Fault.Quoting

variable {texts more : String → Prop} {fault : Fault}

/-- What is quoted may be looked for in more texts. -/
theorem mono (quoting : fault.Quoting texts) (sub : ∀ s, texts s → more s) : fault.Quoting more :=
  ⟨quoting.discreet, fun s same => sub s (quoting.quoted s same)⟩

/-- A fault that quotes nothing quotes nothing wrong. -/
theorem silent (discreet : fault.Discreet) (none : fault.quoted? = none) : fault.Quoting texts :=
  ⟨discreet, fun s same => absurd (none.symm.trans same) (by simp)⟩

/-- What stands where something else was expected is quoted if it is a text. -/
theorem unexpected (d : Draft) {expected : String} (mute : tellsOfEnd expected = false) :
    (d.unexpected expected).Quoting d.Holds := by
  cases d with
  | text s =>
    cases s with
    | none => exact silent trivial rfl
    | some s =>
      refine ⟨mute, fun s' same => ?_⟩
      cases same
      exact .text
  | number n =>
    cases n with
    | none => exact silent trivial rfl
    | some n => cases n <;> exact silent mute rfl
  | _ => exact silent mute rfl

end Fault.Quoting

/-- A decoder whose names tell of nothing and that quotes only texts of the value. -/
def Decoder.Quotes {α : Type} (decode : Decoder α) : Prop :=
  ∀ source d fault, decode source d = .error fault → fault.Quoting d.Holds

/-- The same of the fields of a record. -/
structure Fields.Quotes {α : Type} (fields : Fields α) : Prop where
  ofFields : ∀ source given place fault, fields.ofFields source given = .error (place, fault) →
    fault.Quoting fun s => ∃ key d, (key, d) ∈ given ∧ d.Holds s
  ofItems : ∀ expected source start ds place fault, tellsOfEnd expected = false →
    fields.ofItems expected source start ds = .error (place, fault) →
      fault.Quoting fun s => ∃ d ∈ ds, d.Holds s

namespace Decoder

variable {α β : Type} {decode : Decoder α}

/-- A text that was expected and is not there: what is there is quoted if it is a text, and it is
not. -/
theorem quotes_text : text.Quotes := by
  intro source d fault failed
  unfold text at failed
  split at failed
  · cases failed
  · cases failed
    exact .unexpected _ (tellsOfEnd_of_isMute (by decide))

/-- A number that was expected: a text in its place is quoted. -/
theorem quotes_word32 : word32.Quotes := by
  intro source d fault failed
  unfold word32 at failed
  split at failed
  · split at failed
    · cases failed
    · cases failed
      exact .silent (tellsOfEnd_of_isMute (by decide) : tellsOfEnd "u32" = false) rfl
  · cases failed
    exact .silent (tellsOfEnd_of_isMute (by decide) : tellsOfEnd "u32" = false) rfl
  · cases failed
    exact .unexpected _ (tellsOfEnd_of_isMute (by decide))

/-- A fault is not changed by what would have been done with the value. -/
theorem error_of_map {f : α → β} {e : Except Fault α} {fault : Fault}
    (failed : e.map f = .error fault) : e = .error fault := by
  cases e with
  | error _ => exact congrArg Except.error (Except.error.inj failed)
  | ok _ => cases failed

/-- An optional value quotes what its decoder quotes. -/
theorem Quotes.optional (quotes : decode.Quotes) : (optional decode).Quotes := by
  intro source d fault failed
  unfold Decoder.optional at failed
  split at failed
  · cases failed
  · exact quotes source _ fault (error_of_map failed)

/-- The first item that does not decode is the one that is quoted from. -/
theorem Quotes.items (quotes : decode.Quotes) {source : Source} {ds : List Draft} {fault : Fault}
    (failed : items decode source ds = .error fault) :
    fault.Quoting fun s => ∃ d ∈ ds, d.Holds s := by
  induction ds with
  | nil => cases failed
  | cons d rest ih =>
    rw [Decoder.items] at failed
    split at failed
    · rename_i fault' first
      cases failed
      exact (quotes source d _ first).mono fun s holds => ⟨d, List.mem_cons_self, holds⟩
    · exact (ih (error_of_map failed)).mono fun s ⟨d, mem, holds⟩ =>
        ⟨d, List.mem_cons_of_mem _ mem, holds⟩

/-- A list quotes from one of its items, or says that there is none. -/
theorem Quotes.list (quotes : decode.Quotes) : (list decode).Quotes := by
  intro source d fault failed
  unfold Decoder.list at failed
  split at failed
  · exact (quotes.items failed).mono fun s ⟨d, mem, holds⟩ => .item mem holds
  · cases failed
    exact .unexpected _ (tellsOfEnd_of_isMute (by decide))

/-- Where no alternative decodes, only the name of the type is told. -/
theorem eq_noVariant {type : String} {first second : Decoder α} {source : Source} {d : Draft}
    {fault : Fault} (failed : either type first second source d = .error fault) :
    fault = .noVariant type := by
  unfold either at failed
  split at failed
  · cases failed
  · split at failed
    · cases failed
    · exact (Except.error.inj failed).symm

/-- **Alternatives hide what they found.**  Whatever the two decoders would quote, their fault
names the type alone. -/
theorem quotes_either {type : String} (mute : isMute type.toList = true) (first second : Decoder α) :
    (either type first second).Quotes := by
  intro source d fault failed
  rw [eq_noVariant failed]
  exact .silent (tellsOfEnd_of_isMute mute) rfl

end Decoder

/-! ## What records quote

Fields add two faults of their own, one that is missing and one that is there twice.  Both name
the field and quote nothing. -/

namespace Fields

variable {α β : Type}

/-- What is given for a name is given in the object. -/
theorem mem_of_mem_occurrences {names : List String} {i k : Nat} {d : Draft}
    {given : List (Option String × Draft)} (mem : (k, d) ∈ occurrences names i given) :
    ∃ key, (key, d) ∈ given := by
  induction given generalizing i with
  | nil => cases mem
  | cons field rest ih =>
    obtain ⟨key, d'⟩ := field
    have later (mem : (k, d) ∈ occurrences names (i + 1) rest) :
        ∃ key', (key', d) ∈ (key, d') :: rest := by
      obtain ⟨key', there⟩ := ih mem
      exact ⟨key', List.mem_cons_of_mem _ there⟩
    simp only [occurrences] at mem
    split at mem
    · split at mem
      · rcases List.mem_cons.1 mem with same | mem
        · rw [(Prod.mk.inj same).2]
          exact ⟨_, List.mem_cons_self⟩
        · exact later mem
      · exact later mem
    · exact later mem

/-- A fault keeps its wording when its place is recorded. -/
theorem placed_of_mapError {e : Except Fault α} {i place : Nat} {fault : Fault}
    (failed : e.mapError (i, ·) = .error (place, fault)) : e = .error fault := by
  cases e with
  | error _ => exact congrArg Except.error (Prod.mk.inj (Except.error.inj failed)).2
  | ok _ => cases failed

/-- **A field quotes from its own value.**  A fault about the field as such names it and quotes
nothing. -/
theorem Quotes.field {name : String} {decode : Decoder α} {ifMissing : Except Fault α}
    {ifShort : Option α} (mute : isMute name.toList = true) (quotes : decode.Quotes)
    (missing : ∀ fault, ifMissing = .error fault → fault.Discreet ∧ fault.quoted? = none) :
    (field name [] decode ifMissing ifShort).Quotes where
  ofFields source given place fault failed := by
    simp only [Fields.field] at failed
    split at failed
    · obtain ⟨discreet, none⟩ := missing fault (placed_of_mapError failed)
      exact .silent discreet none
    · rename_i i d more found
      have there : (i, d) ∈ occurrences [name] 0 given := found ▸ List.mem_cons_self
      split at failed
      · rename_i fault' first
        cases failed
        obtain ⟨key, mem⟩ := mem_of_mem_occurrences there
        exact (quotes source d _ first).mono fun s holds => ⟨key, d, mem, holds⟩
      · cases failed
      · cases failed
        exact .silent (tellsOfEnd_of_isMute mute) rfl
  ofItems expected source start ds place fault mute' failed := by
    simp only [Fields.field] at failed
    split at failed
    · exact (quotes source _ _ (placed_of_mapError failed)).mono fun s holds =>
        ⟨_, List.mem_cons_self, holds⟩
    · split at failed
      · cases failed
      · cases failed
        exact .silent mute' rfl

theorem Quotes.required {name : String} {decode : Decoder α} (mute : isMute name.toList = true)
    (quotes : decode.Quotes) : (required name decode).Quotes := by
  refine .field mute quotes fun fault missing => ?_
  cases missing
  exact ⟨tellsOfEnd_of_isMute mute, rfl⟩

theorem Quotes.optional {name : String} {decode : Decoder α} (mute : isMute name.toList = true)
    (quotes : decode.Quotes) : (optional name decode).Quotes :=
  .field mute quotes.optional nofun

theorem Quotes.withDefault {name : String} {decode : Decoder α} {default : α}
    (mute : isMute name.toList = true) (quotes : decode.Quotes) :
    (withDefault name decode default).Quotes :=
  .field mute quotes nofun

/-- What is made of a record does not matter to its faults. -/
theorem Quotes.map {fields : Fields α} (quotes : fields.Quotes) (f : α → β) :
    (f <$> fields).Quotes where
  ofFields source given place fault failed := by
    refine quotes.ofFields source given place fault ?_
    change (fields.ofFields source given).map f = _ at failed
    cases read : fields.ofFields source given with
    | error e => simpa [read, Except.map] using failed
    | ok a => simp [read, Except.map] at failed
  ofItems expected source start ds place fault mute failed := by
    refine quotes.ofItems expected source start ds place fault mute ?_
    change (fields.ofItems expected source start ds).map f = _ at failed
    cases read : fields.ofItems expected source start ds with
    | error e => simpa [read, Except.map] using failed
    | ok a => simp [read, Except.map] at failed

/-- Of two results of which one is a fault, the fault of one of them counts. -/
theorem error_of_both {γ : Type} {f : α → β → γ} {a : Placed α} {b : Placed β}
    {e : Nat × Fault} (failed : Placed.both f a b = .error e) : a = .error e ∨ b = .error e := by
  unfold Placed.both at failed
  split at failed
  · cases failed
  · exact .inl (congrArg Except.error (Except.error.inj failed))
  · exact .inr (congrArg Except.error (Except.error.inj failed))
  · split at failed
    · exact .inr (congrArg Except.error (Except.error.inj failed))
    · exact .inl (congrArg Except.error (Except.error.inj failed))

/-- Two fields: whichever fault is noticed first is the one that is told. -/
theorem Quotes.seq {rf : Fields (α → β)} {rx : Fields α} (first : rf.Quotes) (second : rx.Quotes) :
    (rf <*> rx).Quotes where
  ofFields source given place fault failed := by
    rcases error_of_both failed with failed | failed
    · exact first.ofFields source given place fault failed
    · exact second.ofFields source given place fault failed
  ofItems expected source start ds place fault mute failed := by
    rcases error_of_both failed with failed | failed
    · exact first.ofItems expected source start ds place fault mute failed
    · exact (second.ofItems expected source _ _ place fault mute failed).mono
        fun s ⟨d, mem, holds⟩ => ⟨d, List.mem_of_mem_drop mem, holds⟩

end Fields

namespace Decoder

variable {α : Type} {name : String} {fields : Fields α}

/-- What a record is called tells of nothing if its name does not. -/
theorem tellsOfEnd_struct (mute : isMute name.toList = true) :
    tellsOfEnd ("struct " ++ name) = false := by
  rw [Failure.tellsOfEnd_append_of_getLast (c := ' ') (by decide) (by decide),
    tellsOfEnd_of_isMute mute, Bool.or_false]
  exact tellsOfEnd_of_isMute (by decide)

theorem tellsOfEnd_listExpected (mute : isMute name.toList = true) (count : Nat) :
    tellsOfEnd (listExpected name count) = false := by
  have elements (text : String) (first : text.toList.head? = some ' ')
      (silent : tellsOfEnd text = false) :
      tellsOfEnd ("struct " ++ name ++ " with " ++ Digits.render count ++ text) = false := by
    rw [Failure.tellsOfEnd_append_of_head first (by decide), silent, Bool.or_false,
      Failure.tellsOfEnd_between (c := ' ') (d := ' ') (by decide) (by decide) (by decide)
        (by decide), tellsOfEnd_struct mute, Digits.render, tellsOfEnd_ofList (.digits count),
      Bool.false_or, Bool.or_false]
    exact tellsOfEnd_of_isMute (by decide)
  unfold listExpected
  simp only []
  split
  · exact elements " element" (by decide) (tellsOfEnd_of_isMute (by decide))
  · exact elements " elements" (by decide) (tellsOfEnd_of_isMute (by decide))

/-- A list that goes on too long is counted, not quoted. -/
theorem discreet_tooLong (source : Source) (length count : Nat) :
    (tooLong source length count).Discreet ∧ (tooLong source length count).quoted? = none := by
  have elements (text : String) (silent : tellsOfEnd (text ++ " in sequence") = false)
      (first : (text ++ " in sequence").toList.head? = some ' ') :
      tellsOfEnd (Digits.render count ++ text ++ " in sequence") = false := by
    rw [String.append_assoc, Failure.tellsOfEnd_append_of_head first (by decide), silent,
      Digits.render, tellsOfEnd_ofList (.digits count)]
    rfl
  cases source with
  | text => exact ⟨trivial, rfl⟩
  | value => exact ⟨tellsOfEnd_of_isMute (by decide), rfl⟩
  | buffer =>
    refine ⟨?_, rfl⟩
    change tellsOfEnd (Digits.render count ++ (if count = 1 then " element" else " elements")
      ++ " in sequence") = false
    split
    · exact elements " element" (tellsOfEnd_of_isMute (by decide)) (by decide)
    · exact elements " elements" (tellsOfEnd_of_isMute (by decide)) (by decide)

/-- The fields of an object, with names that are no text at all being told apart. -/
theorem quotes_fieldsOnly (quotes : fields.Quotes) {source : Source}
    {given : List (Option String × Draft)} {fault : Fault}
    (failed : fieldsOnly fields source given = .error fault) :
    fault.Quoting fun s => ∃ key d, (key, d) ∈ given ∧ d.Holds s := by
  have placed {e : Placed α} (failed : e.mapError Prod.snd = .error fault) :
      ∃ place, e = .error (place, fault) := by
    cases e with
    | error e => exact ⟨e.1, by rw [← Except.error.inj failed]⟩
    | ok a => cases failed
  obtain ⟨place, failed⟩ := placed failed
  split at failed
  · exact quotes.ofFields source given place fault failed
  · rcases Fields.error_of_both failed with failed | failed
    · cases failed
      exact .silent trivial rfl
    · exact quotes.ofFields source given place fault failed

/-- A record quotes from one of its fields, in an object or in a list. -/
theorem quotes_record (mute : isMute name.toList = true) (quotes : fields.Quotes) :
    (record name fields).Quotes := by
  intro source d fault failed
  unfold Decoder.record at failed
  split at failed
  · exact (quotes_fieldsOnly quotes failed).mono fun s ⟨key, d, mem, holds⟩ => .field mem holds
  · split at failed
    · rename_i e read
      cases failed
      exact (quotes.ofItems _ source 0 _ e.1 e.2 (tellsOfEnd_listExpected mute _) read).mono
        fun s ⟨d, mem, holds⟩ => .item mem holds
    · split at failed
      · cases failed
        obtain ⟨discreet, none⟩ := discreet_tooLong source _ fields.count
        exact .silent discreet none
      · cases failed
  · cases failed
    exact .unexpected _ (tellsOfEnd_struct mute)

end Decoder
end LanguageBridge.Json
