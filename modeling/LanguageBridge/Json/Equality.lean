import LanguageBridge.Json.Value

/-!
# Values compared

Whether two values are the same can be decided, so that what is on a queue after a run, or what has
been received in it, can be computed and compared with what it should be.

A value holds lists of values, so the comparison goes down three kinds of data at once: values,
lists of values, and lists of fields.  Fields count in their order, as they do everywhere else.
-/

namespace LanguageBridge.Json

mutual

/-- Whether two values are the same. -/
def same : Json → Json → Bool
  | .null, .null => true
  | .bool a, .bool b => a = b
  | .number m, .number n => m = n
  | .text s, .text t => s = t
  | .list items, .list others => sameItems items others
  | .object fields, .object others => sameFields fields others
  | _, _ => false

/-- Whether two lists of values are the same. -/
def sameItems : List Json → List Json → Bool
  | [], [] => true
  | v :: items, w :: others => same v w && sameItems items others
  | _, _ => false

/-- Whether two lists of fields are the same. -/
def sameFields : List (String × Json) → List (String × Json) → Bool
  | [], [] => true
  | (key, v) :: fields, (other, w) :: others => key = other && same v w && sameFields fields others
  | _, _ => false

end

mutual

theorem same_iff : ∀ v w : Json, same v w = true ↔ v = w
  | .null, w => by cases w <;> simp [same]
  | .bool _, w => by cases w <;> simp [same]
  | .number _, w => by cases w <;> simp [same]
  | .text _, w => by cases w <;> simp [same]
  | .list items, w => by cases w <;> simp [same, sameItems_iff items]
  | .object fields, w => by cases w <;> simp [same, sameFields_iff fields]

theorem sameItems_iff : ∀ items others : List Json, sameItems items others = true ↔ items = others
  | [], others => by cases others <;> simp [sameItems]
  | v :: items, others => by cases others <;> simp [sameItems, same_iff v, sameItems_iff items]

theorem sameFields_iff : ∀ fields others : List (String × Json),
    sameFields fields others = true ↔ fields = others
  | [], others => by cases others <;> simp [sameFields]
  | (key, v) :: fields, others => by
      cases others <;> simp [sameFields, same_iff v, sameFields_iff fields, Prod.ext_iff]

end

instance : DecidableEq Json := fun v w => decidable_of_iff (same v w = true) (same_iff v w)

end LanguageBridge.Json
