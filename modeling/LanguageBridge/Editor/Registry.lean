import LanguageBridge.Editor.Feature

/-!
# The provider registry

The editor keeps one provider for each feature and language.  Registering another one replaces it.
Every registration has an id of its own, held in a handle; disposing of a handle removes its
registration if that is still the one in place, so a handle that has been superseded does nothing.
-/

namespace LanguageBridge.Editor

/-- The place of a provider: a feature of a language. -/
structure Slot where
  feature : Feature
  language : String
  deriving DecidableEq, Repr

/-- The handle of a registration. -/
structure Handle where
  slot : Slot
  id : Nat
  deriving DecidableEq, Repr

/-- A registration in place. -/
structure Registration where
  slot : Slot
  id : Nat
  provider : Nat
  deriving DecidableEq, Repr

/-- The registrations in place, and the number of all that were ever made. -/
structure Registry where
  made : Nat
  entries : List Registration
  deriving DecidableEq, Repr

namespace Registry

/-- A registry without registrations. -/
def empty : Registry := ⟨0, []⟩

/-- The registration in place for a slot. -/
def inPlace? (r : Registry) (slot : Slot) : Option Registration := r.entries.find? (·.slot = slot)

/-- The provider in place for a slot. -/
def provider? (r : Registry) (slot : Slot) : Option Nat := (r.inPlace? slot).map (·.provider)

/-- A slot left empty. -/
def clear (r : Registry) (slot : Slot) : Registry :=
  { r with entries := r.entries.filter (·.slot ≠ slot) }

/-- A provider registered, and the handle of its registration. -/
def register (r : Registry) (slot : Slot) (provider : Nat) : Handle × Registry :=
  let id := r.made + 1
  (⟨slot, id⟩, ⟨id, (r.clear slot).entries ++ [⟨slot, id, provider⟩]⟩)

/-- A handle disposed of. -/
def dispose (r : Registry) (h : Handle) : Registry :=
  if (r.inPlace? h.slot).map (·.id) = some h.id then r.clear h.slot else r

/-- All handles of a list disposed of. -/
def disposeAll (r : Registry) (hs : List Handle) : Registry := hs.foldl dispose r

/-- One provider registered for all features of a language, and the handles. -/
def registerAll (r : Registry) (language : String) (provider : Nat) : List Handle × Registry :=
  Feature.all.foldl (fun (handles, r) f =>
    let (h, r) := r.register ⟨f, language⟩ provider
    (handles ++ [h], r)) ([], r)

/-- The number of registrations in place. -/
def count (r : Registry) : Nat := r.entries.length

theorem inPlace?_clear_self (r : Registry) (slot : Slot) : (r.clear slot).inPlace? slot = none := by
  simp [clear, inPlace?]

theorem inPlace?_clear_of_ne (r : Registry) {slot other : Slot} (h : other ≠ slot) :
    (r.clear slot).inPlace? other = r.inPlace? other := by
  simp only [clear, inPlace?, List.find?_filter]
  congr 1
  funext e
  by_cases he : e.slot = other
  · subst he
    simp [h]
  · simp [he]

theorem inPlace?_register_self (r : Registry) (slot : Slot) (provider : Nat) :
    (r.register slot provider).2.inPlace? slot = some ⟨slot, r.made + 1, provider⟩ := by
  have h := inPlace?_clear_self r slot
  simp only [inPlace?] at h
  simp [register, inPlace?, List.find?_append, h]

theorem inPlace?_register_of_ne (r : Registry) {slot other : Slot} (provider : Nat)
    (h : other ≠ slot) : (r.register slot provider).2.inPlace? other = r.inPlace? other := by
  rw [← inPlace?_clear_of_ne r h]
  simp [register, inPlace?, List.find?_append, h.symm]

/-- A handle that has been superseded does nothing. -/
theorem dispose_of_ne {r : Registry} {h : Handle}
    (superseded : (r.inPlace? h.slot).map (·.id) ≠ some h.id) : r.dispose h = r := by
  rw [dispose, if_neg superseded]

theorem inPlace?_dispose_of_ne (r : Registry) (h : Handle) {other : Slot} (ne : other ≠ h.slot) :
    (r.dispose h).inPlace? other = r.inPlace? other := by
  unfold dispose
  split
  · exact inPlace?_clear_of_ne r ne
  · rfl

end Registry
end LanguageBridge.Editor
