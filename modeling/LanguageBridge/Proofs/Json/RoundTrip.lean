import LanguageBridge.Json.Tagged
import LanguageBridge.Proofs.Json.Printing
import LanguageBridge.Proofs.Json.Records

/-!
# Writing and reading back

A type has a written form and a decoder.  They are a *round trip* if the written form is plain and
the decoder gives back what was written, wherever it comes from.  Then the text of the written form,
in either layout, decodes to what was written (`RoundTrip.decodeText_print`,
`RoundTrip.decodeText_printIndented`).

Round trips are put together as decoders are: lists from what their items are, records from their
fields, named messages from their contents.  Of a field it only matters what is given under its
name.

## Using it

For a record, show for each field what is given under its name (`Fields.Gives`, one lemma for each
kind of field), put these together with `Gives.map` and `Gives.seq` in the order of the decoder, and
finish with `Decoder.record_of_gives`.  For a message with a name, `Tagged.decoder_named` and
`Tagged.decoder_nameOnly` pick the content that belongs to the name.

A draft is asked to decode from every source, although a round trip goes through a text: contents of
a message are put aside until their name is known, and then they come from there.
-/

namespace LanguageBridge.Json

variable {α β : Type}

/-- A text is decoded as the value that it is read as. -/
theorem Reads.decodeText {v : Json} {cs : List Char} (reads : Reads v cs) {decode : Decoder α} {a : α}
    (decoded : ∀ source, decode source (draft v) = .ok a) : Json.decodeText decode cs = .ok a := by
  rw [Json.decodeText, reads.readDraft]
  simp only [decoded]
  rfl

/-- A written form that is plain, and a decoder that gives back what was written. -/
structure RoundTrip (write : α → Json) (decode : Decoder α) : Prop where
  plain : ∀ a, Plain (write a)
  decode : ∀ source a, decode source (draft (write a)) = .ok a

namespace RoundTrip

variable {write : α → Json} {decode : Decoder α}

theorem text : RoundTrip Json.text Decoder.text := ⟨.text, fun _ _ => rfl⟩

theorem bool : RoundTrip Json.bool Decoder.bool := ⟨.bool, fun _ _ => rfl⟩

/-- A number of thirty-two bits is read back; it fits whatever it is. -/
theorem word32 : RoundTrip (fun n : UInt32 => .nat n.toNat) Decoder.word32 where
  plain := fun n => .nat (Nat.le_trans (Nat.le_of_lt n.toNat_lt) (by decide))
  decode := fun _ n => by
    show (if n.toNat < UInt32.size then Except.ok n.toNat.toUInt32 else _) = _
    rw [if_pos n.toNat_lt, Nat.toUInt32_eq, UInt32.ofNat_toNat]

theorem word64 : RoundTrip (fun n : UInt64 => .nat n.toNat) Decoder.word64 where
  plain := fun n => .nat (Nat.le_of_lt_succ n.toNat_lt)
  decode := fun _ n => by
    show (if n.toNat < UInt64.size then Except.ok n.toNat.toUInt64 else _) = _
    rw [if_pos n.toNat_lt, Nat.toUInt64_eq, UInt64.ofNat_toNat]

theorem list (trip : RoundTrip write decode) :
    RoundTrip (fun items => .list (items.map write)) (Decoder.list decode) where
  plain := fun items => .list fun v mem => by
    obtain ⟨a, -, rfl⟩ := List.mem_map.1 mem
    exact trip.plain a
  decode := fun source items => by
    refine Decoder.items_of_forall₂ (List.forall₂_map_left_iff.2 ?_)
    exact List.forall₂_same.2 fun a _ => trip.decode source a

/-- What is made of a value after it was read back. -/
theorem map (trip : RoundTrip write decode) (f : α → β) (source : Source) (a : α) :
    Decoder.map f decode source (draft (write a)) = .ok (f a) := by
  rw [Decoder.map, trip.decode]
  rfl

/-- What is never written as `null` is told apart from it. -/
theorem optional (trip : RoundTrip write decode) (solid : ∀ a, (write a).isNull = false)
    (source : Source) (a : α) :
    Decoder.optional decode source (draft (write a)) = .ok (some a) := by
  have decoded := trip.decode source a
  have notNull := solid a
  cases written : write a with
  | null =>
      rw [written] at notNull
      cases notNull
  | _ =>
      rw [written] at decoded
      exact congrArg (Except.map some) decoded

/-! ## Whole texts -/

/-- Text in any layout that reads as the written form. -/
theorem decodeText_of_reads (trip : RoundTrip write decode) {a : α} {cs : List Char}
    (reads : Reads (write a) cs) : decodeText decode cs = .ok a :=
  reads.decodeText fun source => trip.decode source a

/-- **The compact layout decodes to what was written.** -/
theorem decodeText_print (trip : RoundTrip write decode) (a : α) :
    decodeText decode (print (write a)) = .ok a :=
  trip.decodeText_of_reads (trip.plain a).reads_print

/-- **So does the indented one**, at any depth. -/
theorem decodeText_printIndented (trip : RoundTrip write decode) (depth : Nat) (a : α) :
    decodeText decode (printIndented depth (write a)) = .ok a :=
  trip.decodeText_of_reads ((trip.plain a).reads_printIndented depth)

end RoundTrip

/-! ## Fields -/

theorem under_nil (name : String) : under name [] = [] := rfl

/-- What is given in two parts of an object is given in order. -/
theorem under_append (name : String) (fields more : List (String × Json)) :
    under name (fields ++ more) = under name fields ++ under name more := by
  simp [under]

/-- A field that is left out gives nothing under any name. -/
theorem under_field? (name key : String) (value : Option Json) :
    under name (field? key value) = if key = name then value.toList else [] := by
  cases value with
  | none => exact (ite_self _).symm
  | some v => exact under_cons name key v []

/-- The fields of an object give a part of a record, wherever the object comes from. -/
def Fields.Gives (fields : Fields α) (given : List (String × Json)) (a : α) : Prop :=
  ∀ source, fields.ofFields source (draftFields given) = .ok a

namespace Fields

variable {write : α → Json} {decode : Decoder α} {given : List (String × Json)} {name : String}

theorem Gives.map {fields : Fields α} {a : α} (gives : fields.Gives given a) (f : α → β) :
    (f <$> fields).Gives given (f a) := fun source => by
  show (fields.ofFields source (draftFields given)).map f = _
  rw [gives source]
  rfl

theorem Gives.seq {fields : Fields (α → β)} {last : Fields α} {f : α → β} {a : α}
    (gives : fields.Gives given f) (also : last.Gives given a) :
    (fields <*> last).Gives given (f a) := fun source => by
  show Placed.both _ (fields.ofFields source (draftFields given))
    (last.ofFields source (draftFields given)) = _
  rw [gives source, also source]
  rfl

theorem gives_required (trip : RoundTrip write decode) {a : α}
    (once : under name given = [write a]) : (required name decode).Gives given a :=
  fun source => ofFields_of_once once (trip.decode source a)

/-- A field that may go by other names, and goes by one of them once. -/
theorem gives_requiredAlso (trip : RoundTrip write decode) {a : α} {aliases : List String}
    {place : Nat}
    (once : occurrences (name :: aliases) 0 (draftFields given) = [(place, draft (write a))]) :
    (requiredAlso name aliases decode).Gives given a := fun source => by
  simp only [requiredAlso, field, once, trip.decode source a]

theorem gives_withDefault (trip : RoundTrip write decode) {a : α}
    (once : under name given = [write a]) (default : α) :
    (withDefault name decode default).Gives given a :=
  fun source => ofFields_of_once once (trip.decode source a)

/-- A field that is left out when there is no value for it, and whose value is never `null`. -/
theorem gives_field? (trip : RoundTrip write decode) (solid : ∀ a, (write a).isNull = false)
    {value : Option α} (own : under name given = (value.map write).toList) (ifShort : Option _) :
    (field name [] (Decoder.optional decode) (.ok none) ifShort).Gives given value := fun source => by
  cases value with
  | none => exact ofFields_of_never own
  | some a => exact ofFields_of_once own (trip.optional solid source a)

end Fields

/-! ## Records -/

/-- Fields whose values are plain. -/
def PlainFields (fields : List (String × Json)) : Prop := ∀ f ∈ fields, Plain f.2

namespace PlainFields

variable {fields more : List (String × Json)} {key : String} {v : Json}

theorem nil : PlainFields [] := nofun

theorem cons (first : Plain v) (rest : PlainFields fields) : PlainFields ((key, v) :: fields) :=
  List.forall_mem_cons.2 ⟨first, rest⟩

theorem append (first : PlainFields fields) (rest : PlainFields more) :
    PlainFields (fields ++ more) :=
  List.forall_mem_append.2 ⟨first, rest⟩

/-- A field that may be left out is plain either way. -/
theorem field? {write : α → Json} (plain : ∀ a, Plain (write a)) (value : Option α) :
    PlainFields (Json.field? key (value.map write)) := by
  cases value with
  | none => exact nil
  | some a => exact cons (plain a) nil

theorem object (each : PlainFields fields) : Plain (.object fields) := .object each

end PlainFields

/-- What the first of two alternatives refuses and the second accepts. -/
theorem Decoder.either_of_second {type : String} {first second : Decoder α} {source : Source}
    {d : Draft} {fault : Fault} {a : α} (refused : first source d = .error fault)
    (accepted : second source d = .ok a) : Decoder.either type first second source d = .ok a := by
  simp only [Decoder.either, refused, accepted]

/-- A record is given by an object with its fields. -/
theorem Decoder.record_of_gives {fields : Fields α} {given : List (String × Json)} {a : α}
    (gives : fields.Gives given a) (name : String) (source : Source) :
    Decoder.record name fields source (draft (.object given)) = .ok a :=
  fieldsOnly_of_ok (gives source)

/-- A record of one field. -/
theorem RoundTrip.field {write : α → Json} {decode : Decoder α} (trip : RoundTrip write decode)
    (name key : String) : RoundTrip (fun a => .object [(key, write a)])
      (Decoder.record name (id <$> Fields.required key decode)) where
  plain := fun a => PlainFields.object (.cons (trip.plain a) .nil)
  decode := fun source a => by
    have once : under key [(key, write a)] = [write a] := by simp [under_cons, under_nil]
    exact Decoder.record_of_gives ((Fields.gives_required trip once).map id) name source

/-- A record of none. -/
theorem RoundTrip.unit (name : String) :
    RoundTrip (fun _ : Unit => .object []) (Decoder.record name (pure ())) where
  plain := fun _ => PlainFields.object .nil
  decode := fun source _ => Decoder.record_of_gives (fun _ => rfl) name source

/-! ## Named messages -/

theorem Plain.named {v : Json} (plain : Plain v) (name : String) : Plain (.named name v) :=
  PlainFields.object (.cons (.text name) (.cons plain .nil))

theorem Plain.nameOnly (name : String) : Plain (.nameOnly name) :=
  PlainFields.object (.cons (.text name) .nil)

namespace Tagged

variable {t : Tagged α} {name : String} {c : Content α} {source : Source} {a : α}

theorem contentOf_text (known : t.variants.lookup name = some c) :
    t.contentOf source (.text (some name)) = .ok c := by
  rw [contentOf, content, known]

/-- A message is read from its name and its content. -/
theorem decoder_named (known : t.variants.lookup name = some c) {v : Json}
    (decoded : c.decode source (draft v) = .ok a) :
    t.decoder source (draft (.named name v)) = .ok a := by
  show t.ofObject source [(some "name", .text (some name)), (some "value", draft v)] = _
  simp [ofObject, relevant, contentOf_text known, decoded, unlessRepeated]

/-- A message without content is read from its name. -/
theorem decoder_nameOnly (known : t.variants.lookup name = some c) (alone : c.ifMissing = .ok a) :
    t.decoder source (draft (.nameOnly name)) = .ok a := by
  show t.ofObject source [(some "name", .text (some name))] = _
  simp [ofObject, relevant, contentOf_text known, alone]

end Tagged

end LanguageBridge.Json
