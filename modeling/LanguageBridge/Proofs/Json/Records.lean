import LanguageBridge.Json.Decoder
import Mathlib.Data.List.Forall2

/-!
# Reading records

How a record decoder takes its fields out of a value.  In an object a field is looked for by its
name, so what matters is what is given under each name; the order of the fields, and fields with
other names, do not matter.  `Json.under` is that part of an object.  In a list the fields stand in
the order of their declaration, and the list must be neither shorter nor longer than the record.
-/

namespace LanguageBridge.Json

variable {α β : Type}

/-- The values that are given under a name, in their order. -/
def under (name : String) (fields : List (String × Json)) : List Json :=
  (fields.filter (·.1 = name)).map Prod.snd

theorem under_cons (name key : String) (v : Json) (rest : List (String × Json)) :
    under name ((key, v) :: rest) = if key = name then v :: under name rest else under name rest := by
  unfold under
  by_cases same : key = name
  · simp [same]
  · simp [same]

namespace Fields

/-- The draft of an object gives under each name the drafts of what the object gives. -/
theorem occurrences_draftFields (name : String) (i : Nat) (fields : List (String × Json)) :
    (occurrences [name] i (draftFields fields)).map Prod.snd = (under name fields).map draft := by
  induction fields generalizing i with
  | nil => rfl
  | cons field rest ih =>
    obtain ⟨key, v⟩ := field
    rw [draftFields, occurrences, under_cons]
    by_cases same : key = name
    · rw [if_pos (by simp [same]), if_pos same, List.map_cons, List.map_cons, ih]
    · rw [if_neg (by simp [same]), if_neg same, ih]

/-- A field that is given once is decoded. -/
theorem ofFields_of_once {name : String} {decode : Decoder α} {ifMissing : Except Fault α}
    {ifShort : Option α} {fields : List (String × Json)} {v : Json} {a : α} {source : Source}
    (once : under name fields = [v]) (decoded : decode source (draft v) = .ok a) :
    (field name [] decode ifMissing ifShort).ofFields source (draftFields fields) = .ok a := by
  have found := occurrences_draftFields name 0 fields
  rw [once] at found
  rcases given : occurrences [name] 0 (draftFields fields) with _ | ⟨⟨place, d⟩, _ | _⟩
  · simp [given] at found
  · have same : d = draft v := by simpa [given] using found
    simp only [field, given, same, decoded]
  · simp [given] at found

/-- A field that is not given counts as what it is when it is missing. -/
theorem ofFields_of_never {name : String} {decode : Decoder α} {a : α} {ifShort : Option α}
    {fields : List (String × Json)} {source : Source} (never : under name fields = []) :
    (field name [] decode (.ok a) ifShort).ofFields source (draftFields fields) = .ok a := by
  have found := occurrences_draftFields name 0 fields
  rw [never, List.map_nil, List.map_eq_nil_iff] at found
  simp only [field, found]
  rfl

/-- The value of a field that may be left out or be `null`. -/
def Optional (decode : Decoder α) (given : List Json) : Option α → Prop
  | some a => ∃ v, given = [v] ∧ v.isNull = false ∧ decode .value (draft v) = .ok a
  | none => given = [] ∨ given = [.null]

/-- A field that may be left out: it is not given, or it is given once. -/
theorem ofFields_optional {name : String} {decode : Decoder α} {fields : List (String × Json)}
    {a : Option α} (given : Optional decode (under name fields) a) :
    (optional name decode).ofFields .value (draftFields fields) = .ok a := by
  cases a with
  | none =>
    rcases given with never | null
    · exact ofFields_of_never never
    · exact ofFields_of_once null rfl
  | some a =>
    obtain ⟨v, once, notNull, decoded⟩ := given
    refine ofFields_of_once once ?_
    cases v with
    | null => cases notNull
    | _ => simpa only [Decoder.optional, draft, Except.map] using congrArg (Except.map some) decoded

/-! ## Fields in a list -/

variable {expected : String} {source : Source} {start : Nat} {ds : List Draft}

theorem ofItems_map_eq_ok_iff {f : α → β} {fields : Fields α} {b : β} :
    (f <$> fields).ofItems expected source start ds = .ok b ↔
      ∃ a, fields.ofItems expected source start ds = .ok a ∧ f a = b := by
  change (fields.ofItems expected source start ds).map f = .ok b ↔ _
  cases fields.ofItems expected source start ds <;> simp [Except.map]

/-- Fields of a list are taken from the front, one behind the other. -/
theorem ofItems_seq_eq_ok_iff {rf : Fields (α → β)} {rx : Fields α} {b : β} :
    (rf <*> rx).ofItems expected source start ds = .ok b ↔
      ∃ f a, rf.ofItems expected source start ds = .ok f ∧
        rx.ofItems expected source (start + rf.count) (ds.drop rf.count) = .ok a ∧ f a = b := by
  change Placed.both _ (rf.ofItems expected source start ds)
    (rx.ofItems expected source (start + rf.count) (ds.drop rf.count)) = .ok b ↔ _
  cases rf.ofItems expected source start ds <;>
    cases rx.ofItems expected source (start + rf.count) (ds.drop rf.count) <;> simp [Placed.both]

/-- A field that has to be there is the first of what is left. -/
theorem ofItems_required_eq_ok_iff {name : String} {decode : Decoder α} {a : α} :
    (required name decode).ofItems expected source start ds = .ok a ↔
      ∃ d rest, ds = d :: rest ∧ decode source d = .ok a := by
  cases ds with
  | nil => simp [required, field]
  | cons d rest =>
    cases decoded : decode source d <;> simp [required, field, decoded, Except.mapError]

end Fields

namespace Decoder

/-- A record in a list is neither shorter nor longer than its fields. -/
theorem record_list_eq_ok_iff {name : String} {fields : Fields α} {source : Source}
    {ds : List Draft} {a : α} :
    record name fields source (.list ds) = .ok a ↔
      fields.ofItems (listExpected name fields.count) source 0 ds = .ok a ∧
        ds.length ≤ fields.count := by
  rw [record]
  cases fields.ofItems (listExpected name fields.count) source 0 ds with
  | error e => simp
  | ok a' =>
    by_cases long : fields.count < ds.length
    · simp [long, Nat.not_le.2 long]
    · simp [long, Nat.not_lt.1 long]

theorem brokenKey_draftFields (i : Nat) (fields : List (String × Json)) :
    brokenKey i (draftFields fields) = none := by
  induction fields generalizing i with
  | nil => rfl
  | cons field rest ih => exact ih (i + 1)

/-- A record whose fields are all there. -/
theorem fieldsOnly_of_ok {fields : Fields α} {given : List (String × Json)} {a : α}
    {source : Source} (read : fields.ofFields source (draftFields given) = .ok a) :
    fieldsOnly fields source (draftFields given) = .ok a := by
  rw [fieldsOnly, read, brokenKey_draftFields]
  rfl

/-- A record of two fields, both of which are there. -/
theorem fieldsOnly_pair {γ : Type} {f : α → β → γ} {first : Fields α} {second : Fields β}
    {given : List (String × Json)} {a : α} {b : β} {source : Source}
    (left : first.ofFields source (draftFields given) = .ok a)
    (right : second.ofFields source (draftFields given) = .ok b) :
    fieldsOnly (f <$> first <*> second) source (draftFields given) = .ok (f a b) := by
  refine fieldsOnly_of_ok ?_
  change Placed.both _ ((first.ofFields source (draftFields given)).map f)
    (second.ofFields source (draftFields given)) = _
  rw [left, right]
  rfl

/-- Items that are decoded one by one. -/
theorem items_of_forall₂ {decode : Decoder α} {source : Source} {values : List Json}
    {results : List α}
    (decoded : List.Forall₂ (fun v a => decode source (draft v) = .ok a) values results) :
    items decode source (draftItems values) = .ok results := by
  induction decoded with
  | nil => rfl
  | cons first _ ih =>
    rw [draftItems, items, first]
    simp only [ih]
    rfl

end Decoder
end LanguageBridge.Json
