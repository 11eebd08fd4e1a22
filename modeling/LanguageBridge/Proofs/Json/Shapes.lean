import LanguageBridge.Json.Tagged
import LanguageBridge.Proofs.Json.Records

/-!
# What decoders accept and refuse

A decoder accepts some drafts, each of them as one value, and refuses all others.  `Decodes` says
which: a relation that knows nothing of decoders tells what a draft stands for, and a `Shape` tells
what may be wrong with one that stands for nothing.  One thing wrong anywhere in a draft is enough
(`Shape.Misfit`).

For a record it is enough to look at what is given for each of its fields, under its name in an
object and in its place in a list, which are the `Entries` of a draft.  `Fields.Tells` says of
fields what `Decodes` says of decoders, and is put together as fields are.

A text is decoded as what it stands for, or it is `Unreadable` (`Decodes.decodeText_eq_ok_iff`,
`Decodes.unreadable_iff`).

## Two descriptions at once

The relation is the description of good files, the shape that of bad ones, and `Decodes.refuses`
says that the second is the complement of the first.  Both are proved of one decoder in one go,
because a record accepts if all of its fields do and is refused if one of them is.

Neither description mentions an order.  Which of several things wrong is reported is a matter of
faults; whether there is one is not.
-/

namespace LanguageBridge.Json

variable {α β : Type}

/-! ## Shapes

A shape is the type of a value as a description.  What a draft means and what is wrong with one
are relations beside it, and no decoder is mentioned in either. -/

/-- What is asked of a draft.  Of each field of a record its name counts, whether it has to be
there, and the shape of its value. -/
inductive Shape where
  | text
  | word64
  | optional (shape : Shape)
  | list (shape : Shape)
  | record (columns : List (String × Bool × Shape))

/-- A draft that stands for a text. -/
def IsText (d : Draft) (s : String) : Prop := d = .text (some s)

/-- A draft that stands for a whole number of sixty-four bits. -/
def IsWord (d : Draft) (n : UInt64) : Prop := d = .number (some (.natural n.toNat))

/-- A draft that stands for a value or, if it is `null`, for none. -/
def IsOptional (means : Draft → α → Prop) (d : Draft) : Option α → Prop
  | none => d = .null
  | some a => d ≠ .null ∧ means d a

/-- A draft that stands for a list of values. -/
def IsList (means : Draft → α → Prop) (d : Draft) (as : List α) : Prop :=
  ∃ ds, d = .list ds ∧ List.Forall₂ means ds as

/-- What is given for each field of a record, by the name of the field and its place. -/
abbrev Entries := String → ℕ → List Draft

namespace Entries

/-- In an object a field goes by its name. -/
def ofObject (given : List (Option String × Draft)) : Entries := fun name _ =>
  (given.filter (·.1 = some name)).map Prod.snd

/-- In a list a field goes by its place. -/
def ofList (ds : List Draft) : Entries := fun _ place => ds[place]?.toList

/-- What is given for the fields behind the first ones. -/
def drop (e : Entries) (n : ℕ) : Entries := fun name place => e name (n + place)

/-- In the rest of a list a field goes by its place in the rest. -/
theorem ofList_drop (ds : List Draft) (n : ℕ) : ofList (ds.drop n) = (ofList ds).drop n := by
  funext name place
  rw [ofList, drop, ofList, List.getElem?_drop]

end Entries

/-- What a draft gives for the fields of a record of that many fields: an object whose names all
stand for something, or a list that does not go on behind the last field. -/
inductive Gives (count : ℕ) : Draft → Entries → Prop
  | object {given : List (Option String × Draft)} (named : ∀ f ∈ given, f.1 ≠ none) :
      Gives count (.object given) (.ofObject given)
  | list {ds : List Draft} (short : ds.length ≤ count) : Gives count (.list ds) (.ofList ds)

theorem Gives.unique {count : ℕ} {d : Draft} {e e' : Entries} (gives : Gives count d e)
    (gives' : Gives count d e') : e = e' := by
  cases gives <;> cases gives' <;> rfl

mutual

/-- A draft that is not of a shape, and what is wrong with it. -/
inductive Shape.Misfit : Shape → Draft → Prop
  | text {d : Draft} (other : ∀ s, ¬IsText d s) : Misfit .text d
  | word64 {d : Draft} (other : ∀ n, ¬IsWord d n) : Misfit .word64 d
  | optional {shape : Shape} {d : Draft} (solid : d ≠ .null) (misfit : Misfit shape d) :
      Misfit (.optional shape) d
  | noList {shape : Shape} {d : Draft} (other : ∀ ds, d ≠ .list ds) : Misfit (.list shape) d
  | item {shape : Shape} {ds : List Draft} {d : Draft} (mem : d ∈ ds) (misfit : Misfit shape d) :
      Misfit (.list shape) (.list ds)
  | noRecord {columns : List (String × Bool × Shape)} {d : Draft}
      (other : ∀ e, ¬Gives columns.length d e) : Misfit (.record columns) d
  | field {columns : List (String × Bool × Shape)} {d : Draft} {e : Entries}
      (gives : Gives columns.length d e) {place : ℕ} {name : String} {required : Bool} {shape : Shape}
      (column : columns[place]? = some (name, required, shape))
      (wrong : shape.Wrong required (e name place)) : Misfit (.record columns) d

/-- What is given for a field and makes the record unreadable. -/
inductive Shape.Wrong : Shape → Bool → List Draft → Prop
  | missing {shape : Shape} : Wrong shape true []
  | repeated {shape : Shape} {required : Bool} {d d' : Draft} {more : List Draft} :
      Wrong shape required (d :: d' :: more)
  | misfit {shape : Shape} {required : Bool} {d : Draft} (misfit : Misfit shape d) :
      Wrong shape required [d]

end

/-- Only what may be `null` is of the shape of `null`. -/
theorem Shape.misfit_null {shape : Shape} (solid : ∀ inner, shape ≠ .optional inner) :
    shape.Misfit .null := by
  cases shape with
  | text => exact .text nofun
  | word64 => exact .word64 nofun
  | optional inner => exact absurd rfl (solid inner)
  | list shape => exact .noList nofun
  | record columns => exact .noRecord nofun

/-! ## Single values

`Decodes` ties a decoder to a shape and a meaning, in both directions: it accepts what has the
meaning and nothing else, and it refuses what is a misfit and nothing else. -/

/-- A decoder accepts what stands for a value as that value and nothing else, and what stands for no
value is not of its shape. -/
structure Decodes (decode : Decoder α) (shape : Shape) (means : Draft → α → Prop) : Prop where
  accepts : ∀ source d a, decode source d = .ok a ↔ means d a
  refuses : ∀ d, (∀ a, ¬means d a) ↔ shape.Misfit d

theorem decodes_text : Decodes Decoder.text .text IsText where
  accepts := fun source d s => by
    unfold Decoder.text IsText
    split <;> simp_all
  refuses := fun d => ⟨.text, fun | .text other => other⟩

/-- Whole numbers are accepted if they fit in sixty-four bits, and a draft that stands for such a
number stands for one only. -/
theorem decodes_word64 : Decodes Decoder.word64 .word64 IsWord where
  accepts := fun source d n => by
    unfold Decoder.word64 IsWord
    split
    · rename_i m
      simp only [Draft.number.injEq, Option.some.injEq, Number.natural.injEq]
      split
      · rename_i fits
        rw [Except.ok.injEq, ← UInt64.toNat_inj, Nat.toUInt64_eq, UInt64.toNat_ofNat_of_lt' fits]
      · rename_i wide
        refine iff_of_false nofun ?_
        rintro rfl
        exact wide n.toNat_lt
    · exact iff_of_false nofun (by simp)
    · rename_i other _
      refine iff_of_false nofun ?_
      rintro rfl
      exact other _ rfl
  refuses := fun d => ⟨.word64, fun | .word64 other => other⟩

/-- Recording where a fault was noticed does not make a success of it. -/
@[simp] theorem mapError_eq_ok_iff {ε ε' : Type} {f : ε → ε'} {r : Except ε α} {a : α} :
    r.mapError f = .ok a ↔ r = .ok a := by
  cases r <;> simp [Except.mapError]

/-- What is made of a value is made of one that was accepted. -/
theorem map_eq_ok_iff {ε : Type} {f : α → β} {r : Except ε α} {b : β} :
    r.map f = .ok b ↔ ∃ a, r = .ok a ∧ f a = b := by
  cases r <;> simp [Except.map]

variable {decode : Decoder α} {shape : Shape} {means : Draft → α → Prop}

/-- `null` stands for none; anything else stands for what it would stand for by itself. -/
theorem Decodes.optional (decodes : Decodes decode shape means) :
    Decodes (Decoder.optional decode) (.optional shape) (IsOptional means) where
  accepts := fun source d a => by
    unfold Decoder.optional
    split
    · cases a <;> simp [IsOptional]
    · rename_i solid
      have apart : d ≠ .null := fun null => solid null
      rw [map_eq_ok_iff]
      cases a <;> simp [IsOptional, apart, decodes.accepts source d]
  refuses := fun d => by
    constructor
    · intro nothing
      have solid : d ≠ .null := nothing none
      exact .optional solid ((decodes.refuses d).1 fun a meant => nothing (some a) ⟨solid, meant⟩)
    · rintro (_ | _ | ⟨solid, misfit⟩) (_ | a) meant
      · exact solid meant
      · exact (decodes.refuses d).2 misfit a meant.2

theorem items_eq_ok_iff {source : Source} {ds : List Draft} {as : List α} :
    Decoder.items decode source ds = .ok as ↔
      List.Forall₂ (fun d a => decode source d = .ok a) ds as := by
  induction ds generalizing as with
  | nil => cases as <;> simp [Decoder.items]
  | cons d rest ih =>
      rw [Decoder.items]
      cases decoded : decode source d with
      | error e =>
          refine iff_of_false (by simp) fun all => ?_
          cases all with
          | cons first _ => cases decoded.symm.trans first
      | ok a =>
          simp only [map_eq_ok_iff, ih]
          constructor
          · rintro ⟨as, all, rfl⟩
            exact .cons decoded all
          · rintro (_ | ⟨first, all⟩)
            cases decoded.symm.trans first
            exact ⟨_, all, rfl⟩

/-- Items stand for a list if each of them stands for something. -/
theorem exists_forall₂_iff {ds : List Draft} :
    (∃ as, List.Forall₂ means ds as) ↔ ∀ d ∈ ds, ∃ a, means d a := by
  induction ds with
  | nil => simp
  | cons d rest ih =>
      rw [List.forall_mem_cons, ← ih]
      constructor
      · rintro ⟨_, _ | ⟨first, all⟩⟩
        exact ⟨⟨_, first⟩, _, all⟩
      · rintro ⟨⟨a, first⟩, as, all⟩
        exact ⟨a :: as, .cons first all⟩

/-- A list is refused for one item that does not fit, or for being no list. -/
theorem Decodes.list (decodes : Decodes decode shape means) :
    Decodes (Decoder.list decode) (.list shape) (IsList means) where
  accepts := fun source d as => by
    unfold Decoder.list IsList
    split
    · rw [items_eq_ok_iff]
      simp [decodes.accepts source _]
    · rename_i other
      refine iff_of_false nofun ?_
      rintro ⟨ds, rfl, -⟩
      exact other ds rfl
  refuses := fun d => by
    constructor
    · intro nothing
      by_cases isList : ∃ ds, d = .list ds
      · obtain ⟨ds, rfl⟩ := isList
        by_contra fits
        have each : ∀ d ∈ ds, ∃ a, means d a := fun d mem => by
          by_contra none
          exact fits (.item mem ((decodes.refuses d).1 fun a meant => none ⟨a, meant⟩))
        obtain ⟨as, all⟩ := exists_forall₂_iff.2 each
        exact nothing as ⟨ds, rfl, all⟩
      · exact .noList fun ds same => isList ⟨ds, same⟩
    · rintro misfit as ⟨ds, rfl, all⟩
      cases misfit with
      | noList other => exact other ds rfl
      | item mem misfit =>
          obtain ⟨a, meant⟩ := exists_forall₂_iff.1 ⟨as, all⟩ _ mem
          exact (decodes.refuses _).2 misfit a meant

/-! ## Fields

The fields of a record are read one after another, by name from an object and by place from a
list.  The table of names is given beforehand, so the order in which an object has them does not
matter. -/

/-- A field that is given, once, with a value that stands for something. -/
def Given (means : Draft → α → Prop) (values : List Draft) (a : α) : Prop :=
  ∃ d, values = [d] ∧ means d a

/-- A field that need not be given. -/
def GivenOr (default : α) (means : Draft → α → Prop) (values : List Draft) (a : α) : Prop :=
  values = [] ∧ a = default ∨ Given means values a

/-- A field that has to be there is wrong if it is missing, repeated or does not fit. -/
theorem Decodes.given (decodes : Decodes decode shape means) (values : List Draft) :
    (∀ a, ¬Given means values a) ↔ shape.Wrong true values := by
  constructor
  · intro none
    match values with
    | [] => exact .missing
    | [d] => exact .misfit ((decodes.refuses d).1 fun a meant => none a ⟨d, rfl, meant⟩)
    | _ :: _ :: _ => exact .repeated
  · rintro wrong a ⟨d, rfl, meant⟩
    cases wrong with
    | misfit misfit => exact (decodes.refuses d).2 misfit a meant

/-- A field with a default is wrong in the same ways, except that it may be missing. -/
theorem Decodes.givenOr (decodes : Decodes decode shape means) (default : α) (values : List Draft) :
    (∀ a, ¬GivenOr default means values a) ↔ shape.Wrong false values := by
  constructor
  · intro none
    have given := (decodes.given values).1 fun a given => none a (.inr given)
    cases given with
    | missing => exact absurd (.inl ⟨rfl, rfl⟩) (none default)
    | repeated => exact .repeated
    | misfit misfit => exact .misfit misfit
  · rintro wrong a (⟨rfl, rfl⟩ | given)
    · cases wrong
    · refine (decodes.given values).2 ?_ a given
      cases wrong with
      | repeated => exact .repeated
      | misfit misfit => exact .misfit misfit

/-- Something wrong is given for one of the fields. -/
def SomeWrong (columns : List (String × Bool × Shape)) (e : Entries) : Prop :=
  ∃ (place : ℕ) (name : String) (required : Bool) (shape : Shape),
    columns[place]? = some (name, required, shape) ∧ shape.Wrong required (e name place)

theorem someWrong_singleton {name : String} {required : Bool} {e : Entries} :
    SomeWrong [(name, required, shape)] e ↔ shape.Wrong required (e name 0) := by
  constructor
  · rintro ⟨_ | place, _, _, _, column, wrong⟩
    · cases column
      exact wrong
    · cases column
  · exact fun wrong => ⟨0, _, _, _, rfl, wrong⟩

/-- Of fields that are put behind others: in a list they stand behind them. -/
theorem someWrong_append {columns more : List (String × Bool × Shape)} {e : Entries} :
    SomeWrong (columns ++ more) e ↔ SomeWrong columns e ∨ SomeWrong more (e.drop columns.length) := by
  constructor
  · rintro ⟨place, name, required, shape, column, wrong⟩
    rcases Nat.lt_or_ge place columns.length with early | late
    · rw [List.getElem?_append_left early] at column
      exact .inl ⟨place, name, required, shape, column, wrong⟩
    · rw [List.getElem?_append_right late] at column
      refine .inr ⟨place - columns.length, name, required, shape, column, ?_⟩
      rwa [Entries.drop, Nat.add_sub_cancel' late]
  · rintro (⟨place, name, required, shape, column, wrong⟩ | ⟨place, name, required, shape, column, wrong⟩)
    · refine ⟨place, name, required, shape, ?_, wrong⟩
      rwa [List.getElem?_append_left (List.getElem?_eq_some_iff.1 column).1]
    · refine ⟨columns.length + place, name, required, shape, ?_, wrong⟩
      rwa [List.getElem?_append_right (Nat.le_add_right _ _), Nat.add_sub_cancel_left]

namespace Fields

/-- Fields are read off what is given for them, in an object and in a list, unless something wrong
is given for one of them. -/
structure Tells (fields : Fields α) (columns : List (String × Bool × Shape))
    (cond : Entries → α → Prop) : Prop where
  count : fields.count = columns.length
  object : ∀ source given a, fields.ofFields source given = .ok a ↔ cond (.ofObject given) a
  list : ∀ expected source start ds a,
    fields.ofItems expected source start ds = .ok a ↔ cond (.ofList ds) a
  refuses : ∀ e, (∀ a, ¬cond e a) ↔ SomeWrong columns e

theorem ofFields_map_eq_ok_iff {f : α → β} {fields : Fields α} {source : Source}
    {given : List (Option String × Draft)} {b : β} : (f <$> fields).ofFields source given = .ok b ↔
      ∃ a, fields.ofFields source given = .ok a ∧ f a = b :=
  map_eq_ok_iff

/-- Fields that are taken one after another from an object; each is looked for on its own. -/
theorem ofFields_seq_eq_ok_iff {rf : Fields (α → β)} {rx : Fields α} {source : Source}
    {given : List (Option String × Draft)} {b : β} : (rf <*> rx).ofFields source given = .ok b ↔
      ∃ f a, rf.ofFields source given = .ok f ∧ rx.ofFields source given = .ok a ∧ f a = b := by
  change Placed.both _ (rf.ofFields source given) (rx.ofFields source given) = .ok b ↔ _
  cases rf.ofFields source given <;> cases rx.ofFields source given <;> simp [Placed.both]

/-- What is given under one name is what an object holds under that name. -/
theorem map_occurrences (name : String) (i : ℕ) (given : List (Option String × Draft)) (place : ℕ) :
    (occurrences [name] i given).map Prod.snd = Entries.ofObject given name place := by
  induction given generalizing i with
  | nil => rfl
  | cons field rest ih =>
      obtain ⟨key, d⟩ := field
      have rest := ih (i + 1)
      unfold Entries.ofObject at rest ⊢
      cases key with
      | none => simpa [occurrences] using rest
      | some key => by_cases same : key = name <;> simp [occurrences, same, rest]

/-- A field of an object is missing, or it is given once and decodes. -/
theorem ofFields_field_eq_ok_iff {name : String} {ifMissing : Except Fault α} {ifShort : Option α}
    {source : Source} {given : List (Option String × Draft)} {a : α} :
    (field name [] decode ifMissing ifShort).ofFields source given = .ok a ↔
      Entries.ofObject given name 0 = [] ∧ ifMissing = .ok a ∨
        Given (fun d a => decode source d = .ok a) (Entries.ofObject given name 0) a := by
  rw [← map_occurrences name 0 given, Given]
  simp only [field]
  rcases occurrences [name] 0 given with _ | ⟨⟨i, d⟩, more⟩
  · simp
  · cases more <;> cases decoded : decode source d <;> simp [decoded]

/-- A field that has to be there. -/
theorem tells_required (decodes : Decodes decode shape means) (name : String) :
    (required name decode).Tells [(name, true, shape)] fun e a => Given means (e name 0) a where
  count := rfl
  object := fun source given a => by
    rw [required, ofFields_field_eq_ok_iff]
    simp [Given, decodes.accepts source _]
  list := fun expected source start ds a => by
    rw [ofItems_required_eq_ok_iff]
    cases ds <;> simp [Given, Entries.ofList, decodes.accepts source _]
  refuses := fun e => by rw [someWrong_singleton, decodes.given]

/-- A field with a value of its own when it is missing. -/
theorem tells_withDefault (decodes : Decodes decode shape means) (name : String) (default : α) :
    (withDefault name decode default).Tells [(name, false, shape)]
      fun e a => GivenOr default means (e name 0) a where
  count := rfl
  object := fun source given a => by
    rw [withDefault, ofFields_field_eq_ok_iff, Except.ok.injEq, @eq_comm _ default]
    simp [GivenOr, Given, decodes.accepts source _]
  list := fun expected source start ds a => by
    cases ds with
    | nil =>
        have short : (withDefault name decode default).ofItems expected source start [] = .ok default := rfl
        rw [short, Except.ok.injEq, @eq_comm _ default]
        simp [GivenOr, Given, Entries.ofList]
    | cons d rest =>
        have item : (withDefault name decode default).ofItems expected source start (d :: rest)
            = (decode source d).mapError (start, ·) := rfl
        rw [item, mapError_eq_ok_iff, decodes.accepts]
        simp [GivenOr, Given, Entries.ofList]
  refuses := fun e => by rw [someWrong_singleton, decodes.givenOr]

variable {cond : Entries → α → Prop} {columns : List (String × Bool × Shape)}

/-- The same fields in other words. -/
theorem Tells.congr {fields : Fields α} {cond' : Entries → α → Prop} (tells : fields.Tells columns cond)
    (same : ∀ e a, cond e a ↔ cond' e a) : fields.Tells columns cond' := by
  obtain rfl : cond = cond' := funext fun e => funext fun a => propext (same e a)
  exact tells

/-- What is made of a record is told by the record. -/
theorem Tells.map {fields : Fields α} (tells : fields.Tells columns cond) (f : α → β) :
    (f <$> fields).Tells columns fun e b => ∃ a, cond e a ∧ f a = b where
  count := tells.count
  object := fun source given b => by simp only [ofFields_map_eq_ok_iff, tells.object]
  list := fun expected source start ds b => by simp only [ofItems_map_eq_ok_iff, tells.list]
  refuses := fun e => by
    rw [← tells.refuses]
    constructor
    · exact fun none a holds => none (f a) ⟨a, holds, rfl⟩
    · rintro none b ⟨a, holds, rfl⟩
      exact none a holds

/-- The fields behind the first ones are looked for behind them. -/
theorem Tells.seq {rf : Fields (α → β)} {rx : Fields α} {first : List (String × Bool × Shape)}
    {condf : Entries → (α → β) → Prop} (front : rf.Tells first condf) (back : rx.Tells columns cond) :
    (rf <*> rx).Tells (first ++ columns)
      fun e b => ∃ f a, condf e f ∧ cond (e.drop first.length) a ∧ f a = b where
  count := by
    rw [List.length_append, ← front.count, ← back.count]
    rfl
  object := fun source given b => by
    simp only [ofFields_seq_eq_ok_iff, front.object, back.object]
    rfl
  list := fun expected source start ds b => by
    simp only [ofItems_seq_eq_ok_iff, front.list, back.list, front.count, Entries.ofList_drop]
  refuses := fun e => by
    rw [someWrong_append, ← front.refuses, ← back.refuses]
    constructor
    · intro none
      by_contra both
      push Not at both
      obtain ⟨⟨f, holds⟩, a, holds'⟩ := both
      exact none (f a) ⟨f, a, holds, holds', rfl⟩
    · rintro (none | none) b ⟨f, a, holds, holds', rfl⟩
      · exact none f holds
      · exact none a holds'

end Fields

/-! ## Records

A record puts its fields together, and refuses what is neither an object nor a list. -/

/-- A name that stands for nothing makes an object unreadable, whatever it was meant to name. -/
theorem brokenKey_eq_none_iff {i : ℕ} {given : List (Option String × Draft)} :
    Decoder.brokenKey i given = none ↔ ∀ f ∈ given, f.1 ≠ none := by
  induction given generalizing i with
  | nil => simp [Decoder.brokenKey]
  | cons field rest ih =>
      obtain ⟨_ | key, d⟩ := field
      · simp [Decoder.brokenKey]
      · simp [Decoder.brokenKey, ih]

/-- An object is accepted if all its names stand for something and its fields are accepted. -/
theorem fieldsOnly_eq_ok_iff {fields : Fields α} {source : Source} {given : List (Option String × Draft)}
    {a : α} : Decoder.fieldsOnly fields source given = .ok a ↔
      (∀ f ∈ given, f.1 ≠ none) ∧ fields.ofFields source given = .ok a := by
  rw [← brokenKey_eq_none_iff (i := 0), Decoder.fieldsOnly, mapError_eq_ok_iff]
  cases Decoder.brokenKey 0 given <;> cases fields.ofFields source given <;> simp [Placed.both]

/-- A record is given by what is given for its fields. -/
theorem decodes_record {fields : Fields α} {columns : List (String × Bool × Shape)}
    {cond : Entries → α → Prop} (tells : fields.Tells columns cond) (name : String) :
    Decodes (Decoder.record name fields) (.record columns)
      fun d a => ∃ e, Gives columns.length d e ∧ cond e a where
  accepts := fun source d a => by
    rw [← tells.count]
    constructor
    · intro decoded
      unfold Decoder.record at decoded
      split at decoded
      · obtain ⟨named, read⟩ := fieldsOnly_eq_ok_iff.1 decoded
        exact ⟨_, .object named, (tells.object _ _ _).1 read⟩
      · obtain ⟨read, short⟩ := Decoder.record_list_eq_ok_iff.1 decoded
        exact ⟨_, .list short, (tells.list _ _ _ _ _).1 read⟩
      · cases decoded
    · rintro ⟨e, gives, holds⟩
      cases gives with
      | object named => exact fieldsOnly_eq_ok_iff.2 ⟨named, (tells.object _ _ _).2 holds⟩
      | list short =>
          exact Decoder.record_list_eq_ok_iff.2 ⟨(tells.list _ _ _ _ _).2 holds, short⟩
  refuses := fun d => by
    constructor
    · intro none
      by_cases given : ∃ e, Gives columns.length d e
      · obtain ⟨e, gives⟩ := given
        obtain ⟨_, _, _, _, column, wrong⟩ :=
          (tells.refuses e).1 fun a holds => none a ⟨e, gives, holds⟩
        exact .field gives column wrong
      · exact .noRecord fun e gives => given ⟨e, gives⟩
    · rintro misfit a ⟨e, gives, holds⟩
      cases misfit with
      | noRecord other => exact other e gives
      | field gives' column wrong =>
          obtain rfl := gives.unique gives'
          exact (tells.refuses e).2 ⟨_, _, _, _, column, wrong⟩ a holds

/-! ## Whole texts

The level of characters, on top of everything else: a text stands for a draft or is broken. -/

/-- A text that is the written form of a draft: nothing but blanks follows it. -/
def Stands (cs : List Char) (d : Draft) : Prop :=
  ∃ rest, readDraft cs = .ok (d, rest) ∧ skipSpace rest = []

/-- A text that is no value of a shape, and why. -/
inductive Unreadable (shape : Shape) (cs : List Char) : Prop
  | broken {flaw : Flaw} (read : readDraft cs = .error flaw) : Unreadable shape cs
  | trailing {d : Draft} {rest : List Char} (read : readDraft cs = .ok (d, rest))
      (more : skipSpace rest ≠ []) : Unreadable shape cs
  | misfit {d : Draft} (stands : Stands cs d) (misfit : shape.Misfit d) : Unreadable shape cs

/-- A text is decoded if it stands for a draft that is accepted. -/
theorem decodeText_eq_ok_iff {cs : List Char} {a : α} :
    decodeText decode cs = .ok a ↔ ∃ d, Stands cs d ∧ decode .text d = .ok a := by
  unfold decodeText Stands
  split
  · simp [*]
  · simp [*]
  · rename_i d rest read
    simp only [read, Except.ok.injEq, Prod.mk.injEq]
    split
    · simp_all
    · simp_all
    · by_cases blank : skipSpace rest = [] <;> simp_all

/-- A text is decoded as what its draft stands for. -/
theorem Decodes.decodeText_eq_ok_iff (decodes : Decodes decode shape means) {cs : List Char} {a : α} :
    decodeText decode cs = .ok a ↔ ∃ d, Stands cs d ∧ means d a := by
  simp only [Json.decodeText_eq_ok_iff, decodes.accepts]

theorem Stands.unique {cs : List Char} {d d' : Draft} (stands : Stands cs d) (stands' : Stands cs d') :
    d = d' := by
  obtain ⟨rest, read, -⟩ := stands
  obtain ⟨rest', read', -⟩ := stands'
  rw [read] at read'
  exact congrArg Prod.fst (Except.ok.inj read')

/-- A text that is refused is unreadable, and no other text is. -/
theorem Decodes.unreadable_iff (decodes : Decodes decode shape means) {cs : List Char} :
    Unreadable shape cs ↔ ∀ a, decodeText decode cs ≠ .ok a := by
  simp only [ne_eq, decodes.decodeText_eq_ok_iff]
  constructor
  · rintro (⟨read⟩ | ⟨read, more⟩ | ⟨stands, misfit⟩) a ⟨d, stands', meant⟩
    · obtain ⟨rest, read', -⟩ := stands'
      cases read.symm.trans read'
    · obtain ⟨rest, read', blank⟩ := stands'
      cases read.symm.trans read'
      exact more blank
    · obtain rfl := stands.unique stands'
      exact (decodes.refuses _).2 misfit a meant
  · intro none
    cases read : readDraft cs with
    | error flaw => exact .broken read
    | ok found =>
        obtain ⟨d, rest⟩ := found
        by_cases blank : skipSpace rest = []
        · have stands : Stands cs d := ⟨rest, read, blank⟩
          exact .misfit stands ((decodes.refuses d).1 fun a meant => none a ⟨d, stands, meant⟩)
        · exact .trailing read blank

end LanguageBridge.Json
