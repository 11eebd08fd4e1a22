import LanguageBridge.Editor.Registry

/-!
# Handles that cover a registry

Handles *cover* a registry if every registration in place belongs to one of them.  Whoever holds
such handles can empty the registry, and if fresh providers are registered first and the old handles
are disposed of afterwards, the fresh handles cover what is left.  This is how a client replaces its
providers without taking away the new ones.

## Three relations

* `Covers hs r`: nothing is in place but what the handles stand for.
* `Fresh made hs r`: the handles were made after the first `made` ones, and each of them is in
  place.
* `Stocks language provider hs r`: for one language the handles and what is in place are the same,
  all of it of one provider, and there are none or one for each feature.  Others may use the
  registry for other languages, and this says nothing of those.

Disposing of a handle looks for its number, not for its slot, so a handle that has been superseded
takes nothing away (`inPlace?_dispose`).
-/

namespace LanguageBridge.Editor.Registry

/-- Handles to which every registration in place belongs. -/
def Covers (hs : List Handle) (r : Registry) : Prop :=
  ∀ slot e, r.inPlace? slot = some e → Handle.mk slot e.id ∈ hs

theorem covers_empty : Covers [] empty := by
  intro slot e placed
  cases placed

/-- Disposing of a handle removes its own registration and no other. -/
theorem inPlace?_dispose (r : Registry) (h : Handle) (slot : Slot) :
    (r.dispose h).inPlace? slot = (r.inPlace? slot).filter fun e => Handle.mk slot e.id ≠ h := by
  by_cases same : slot = h.slot
  · subst same
    unfold dispose
    split
    · rename_i own
      obtain ⟨e, placed, id⟩ := Option.map_eq_some_iff.1 own
      rw [inPlace?_clear_self, placed, Option.filter_some, if_neg (by simp [id])]
    · rename_i other
      cases placed : r.inPlace? h.slot with
      | none => rfl
      | some e =>
          rw [Option.filter_some, if_pos]
          rw [decide_eq_true_iff]
          intro own
          exact other (by rw [placed, ← own]; rfl)
  · rw [inPlace?_dispose_of_ne r h same]
    cases r.inPlace? slot with
    | none => rfl
    | some e =>
        rw [Option.filter_some, if_pos]
        rw [decide_eq_true_iff]
        intro own
        exact same (congrArg Handle.slot own)

/-- Disposing of several handles removes their registrations and no others. -/
theorem inPlace?_disposeAll (r : Registry) (hs : List Handle) (slot : Slot) :
    (r.disposeAll hs).inPlace? slot
      = (r.inPlace? slot).filter fun e => Handle.mk slot e.id ∉ hs := by
  induction hs generalizing r with
  | nil =>
      show r.inPlace? slot = _
      cases r.inPlace? slot with
      | none => rfl
      | some e => rw [Option.filter_some, if_pos (by simp)]
  | cons h rest ih =>
      have one := inPlace?_dispose r h slot
      refine (ih (r.dispose h)).trans ?_
      rw [one, Option.filter_filter]
      congr 1
      funext e
      simp [not_or]

/-- Handles that cover a registry empty it. -/
theorem Covers.disposeAll {hs : List Handle} {r : Registry} (covers : Covers hs r) (slot : Slot) :
    (r.disposeAll hs).inPlace? slot = none := by
  rw [inPlace?_disposeAll]
  cases placed : r.inPlace? slot with
  | none => rfl
  | some e =>
      rw [Option.filter_some, if_neg]
      simpa using covers slot e placed

/-- A registry in which nothing is in place stays so, whatever is disposed of. -/
theorem disposeAll_of_none {r : Registry} (none : ∀ slot, r.inPlace? slot = none)
    (hs : List Handle) (slot : Slot) : (r.disposeAll hs).inPlace? slot = Option.none := by
  rw [inPlace?_disposeAll, none slot]
  rfl

/-- What is in place after fresh registrations is one of them or was in place before. -/
theorem inPlace?_registerAll {r : Registry} {language : String} {provider : Nat} {slot : Slot}
    {e : Registration} (placed : (r.registerAll language provider).2.inPlace? slot = some e) :
    Handle.mk slot e.id ∈ (r.registerAll language provider).1 ∨ r.inPlace? slot = some e := by
  revert placed
  unfold registerAll
  refine List.foldlRecOn Feature.all _
    (motive := fun (p : List Handle × Registry) =>
      p.2.inPlace? slot = some e → Handle.mk slot e.id ∈ p.1 ∨ r.inPlace? slot = some e) ?_ ?_
  · exact Or.inr
  · rintro ⟨handles, r'⟩ before f - placed
    by_cases same : slot = ⟨f, language⟩
    · subst same
      have fresh := inPlace?_register_self r' ⟨f, language⟩ provider
      cases fresh.symm.trans placed
      exact Or.inl (List.mem_append_right handles (List.mem_singleton.2 rfl))
    · have kept := inPlace?_register_of_ne r' provider same
      rcases before (kept.symm.trans placed) with mem | old
      · exact Or.inl (List.mem_append_left _ mem)
      · exact Or.inr old

/-- Fresh handles cover what is left when the old ones, which covered everything, are disposed
of. -/
theorem Covers.registerAll {hs : List Handle} {r : Registry} (covers : Covers hs r)
    (language : String) (provider : Nat) :
    Covers (r.registerAll language provider).1
      ((r.registerAll language provider).2.disposeAll hs) := by
  intro slot e placed
  rw [inPlace?_disposeAll, Option.filter_eq_some_iff] at placed
  obtain ⟨placed, fresh⟩ := placed
  rcases inPlace?_registerAll placed with mem | old
  · exact mem
  · exact absurd (covers slot e old) (by simpa using fresh)

/-! ## Fresh handles -/

/-- Handles made since some number of registrations, whose registrations are all in place. -/
structure Fresh (made : Nat) (hs : List Handle) (r : Registry) : Prop where
  since : made ≤ r.made
  ids : ∀ h ∈ hs, made < h.id ∧ h.id ≤ r.made
  placed : ∀ h ∈ hs, (r.inPlace? h.slot).map (·.id) = some h.id

/-- A registration for another slot leaves fresh handles fresh, and its own handle is fresh. -/
theorem Fresh.register {made : Nat} {hs : List Handle} {r : Registry} (fresh : Fresh made hs r)
    {slot : Slot} (vacant : slot ∉ hs.map Handle.slot) (provider : Nat) :
    Fresh made (hs ++ [(r.register slot provider).1]) (r.register slot provider).2 where
  since := Nat.le_succ_of_le fresh.since
  ids := by
    intro h mem
    rcases List.mem_append.1 mem with old | new
    · exact ⟨(fresh.ids h old).1, Nat.le_succ_of_le (fresh.ids h old).2⟩
    · rw [List.mem_singleton.1 new]
      exact ⟨Nat.lt_succ_of_le fresh.since, Nat.le_refl _⟩
  placed := by
    intro h mem
    rcases List.mem_append.1 mem with old | new
    · have other : h.slot ≠ slot := by
        rintro rfl
        exact vacant (List.mem_map_of_mem old)
      rw [inPlace?_register_of_ne r provider other]
      exact fresh.placed h old
    · rw [List.mem_singleton.1 new]
      show ((r.register slot provider).2.inPlace? slot).map (·.id) = some (r.made + 1)
      rw [inPlace?_register_self]
      rfl

/-- Registering a provider for some features gives one fresh handle for each of them. -/
theorem fresh_foldl_register {made : Nat} {hs : List Handle} {r : Registry}
    (fresh : Fresh made hs r) (language : String) (provider : Nat) (features : List Feature)
    (distinct : (hs.map Handle.slot ++ features.map (Slot.mk · language)).Nodup) :
    let registered := features.foldl (fun (p : List Handle × Registry) f =>
      (p.1 ++ [(p.2.register ⟨f, language⟩ provider).1],
        (p.2.register ⟨f, language⟩ provider).2)) (hs, r)
    registered.1.map Handle.slot = hs.map Handle.slot ++ features.map (Slot.mk · language) ∧
      Fresh made registered.1 registered.2 := by
  induction features generalizing hs r with
  | nil => exact ⟨(List.append_nil _).symm, fresh⟩
  | cons f rest ih =>
      have slots : (hs ++ [(r.register ⟨f, language⟩ provider).1]).map Handle.slot
          = hs.map Handle.slot ++ [⟨f, language⟩] := by
        rw [List.map_append]
        rfl
      have vacant : Slot.mk f language ∉ hs.map Handle.slot := by
        intro mem
        exact (List.nodup_append.1 distinct).2.2 _ mem _ (List.mem_map_of_mem (List.mem_cons_self))
          rfl
      obtain ⟨all, still⟩ := ih (fresh.register vacant provider) (by
        rw [slots, List.append_assoc]
        exact distinct)
      refine ⟨?_, still⟩
      refine all.trans ?_
      rw [slots, List.append_assoc]
      rfl

@[simp] theorem made_disposeAll (r : Registry) (hs : List Handle) :
    (r.disposeAll hs).made = r.made := by
  induction hs generalizing r with
  | nil => rfl
  | cons h rest ih =>
      refine (ih (r.dispose h)).trans ?_
      unfold dispose
      split <;> rfl

/-- Fresh handles stay in place when older ones are disposed of. -/
theorem Fresh.disposeAll {made : Nat} {hs old : List Handle} {r : Registry} (fresh : Fresh made hs r)
    (older : ∀ h ∈ old, h.id ≤ made) : Fresh made hs (r.disposeAll old) where
  since := by
    rw [made_disposeAll]
    exact fresh.since
  ids := by
    rw [made_disposeAll]
    exact fresh.ids
  placed := by
    intro h mem
    obtain ⟨e, placed, own⟩ := Option.map_eq_some_iff.1 (fresh.placed h mem)
    have kept : Handle.mk h.slot e.id ∉ old := by
      intro mem'
      have younger := (fresh.ids h mem).1
      have before : e.id ≤ made := older _ mem'
      rw [own] at before
      exact absurd before (Nat.not_le_of_lt younger)
    rw [inPlace?_disposeAll, placed, Option.filter_some, if_pos (decide_eq_true kept),
      Option.map_some, own]

/-- Registering a provider for all features gives one handle for each of them, and these stay in
place when handles from before are disposed of. -/
theorem fresh_registerAll {r : Registry} {hs : List Handle} (old : ∀ h ∈ hs, h.id ≤ r.made)
    (language : String) (provider : Nat) :
    (r.registerAll language provider).1.map Handle.slot = Feature.all.map (Slot.mk · language) ∧
      Fresh r.made (r.registerAll language provider).1
        ((r.registerAll language provider).2.disposeAll hs) := by
  have none : Fresh r.made [] r := ⟨Nat.le_refl _, nofun, nofun⟩
  obtain ⟨slots, fresh⟩ :=
    fresh_foldl_register none language provider Feature.all (by simp [Feature.all])
  exact ⟨slots, fresh.disposeAll old⟩

/-- The provider that is registered for all features is the one in place for each of them. -/
theorem provider_registerAll {r : Registry} {language : String} {provider : Nat} {h : Handle}
    (mem : h ∈ (r.registerAll language provider).1) :
    (r.registerAll language provider).2.provider? h.slot = some provider := by
  revert h
  unfold registerAll
  refine List.foldlRecOn Feature.all _
    (motive := fun (p : List Handle × Registry) =>
      ∀ {h : Handle}, h ∈ p.1 → p.2.provider? h.slot = some provider) ?_ ?_
  · intro h mem
    cases mem
  rintro ⟨handles, r'⟩ before f - h mem
  show ((r'.register ⟨f, language⟩ provider).2.inPlace? h.slot).map _ = _
  by_cases same : h.slot = ⟨f, language⟩
  · rw [same, inPlace?_register_self]
    rfl
  · rw [inPlace?_register_of_ne r' provider same]
    refine before ((List.mem_append.1 mem).resolve_right fun own => same ?_)
    rw [List.mem_singleton.1 own]
    rfl

/-! ## The stock of a language -/

/-- Handles of whoever alone registers for a language, each time one provider for all features. -/
structure Stocks (language : String) (provider : Nat) (hs : List Handle) (r : Registry) : Prop where
  ids : ∀ h ∈ hs, h.id ≤ r.made
  covers : ∀ f e, r.inPlace? ⟨f, language⟩ = some e → Handle.mk ⟨f, language⟩ e.id ∈ hs
  placed : ∀ h ∈ hs, r.provider? h.slot = some provider
  whole : hs = [] ∨ hs.map Handle.slot = Feature.all.map (Slot.mk · language)

/-- An empty registry has no stock of any language. -/
theorem stocks_empty (language : String) (provider : Nat) : Stocks language provider [] empty where
  ids := nofun
  covers := nofun
  placed := nofun
  whole := .inl rfl

namespace Stocks

variable {language : String} {provider : Nat} {hs : List Handle} {r : Registry}

/-- The handles of a stock are all for its language. -/
theorem language_eq (stocks : Stocks language provider hs r) {h : Handle} (mem : h ∈ hs) :
    h.slot.language = language := by
  rcases stocks.whole with none | whole
  · rw [none] at mem
    cases mem
  · have slot : h.slot ∈ Feature.all.map (Slot.mk · language) :=
      whole ▸ List.mem_map_of_mem mem
    obtain ⟨f, -, own⟩ := List.mem_map.1 slot
    rw [← own]

/-- With handles, the provider is in place for every feature. -/
theorem full (stocks : Stocks language provider hs r) (some : hs ≠ []) (f : Feature) :
    r.provider? ⟨f, language⟩ = Option.some provider := by
  have whole := stocks.whole.resolve_left some
  have slot : Slot.mk f language ∈ hs.map Handle.slot :=
    whole ▸ List.mem_map_of_mem (Feature.mem_all f)
  obtain ⟨h, mem, own⟩ := List.mem_map.1 slot
  rw [← own]
  exact stocks.placed h mem

/-- Without handles, nothing is in place. -/
theorem vacant (stocks : Stocks language provider [] r) (f : Feature) :
    r.inPlace? ⟨f, language⟩ = none := by
  cases placed : r.inPlace? ⟨f, language⟩ with
  | none => rfl
  | some e => cases stocks.covers f e placed

/-- A fresh provider registered for all features, and the handles from before disposed of. -/
theorem renew (stocks : Stocks language provider hs r) (fresh : Nat) :
    Stocks language fresh (r.registerAll language fresh).1
      ((r.registerAll language fresh).2.disposeAll hs) := by
  obtain ⟨slots, own⟩ := fresh_registerAll stocks.ids language fresh
  refine ⟨fun h mem => (own.ids h mem).2, fun f e placed => ?_, fun h mem => ?_, .inr slots⟩
  · rw [inPlace?_disposeAll, Option.filter_eq_some_iff] at placed
    obtain ⟨placed, left⟩ := placed
    rcases inPlace?_registerAll placed with mem | old
    · exact mem
    · exact absurd (stocks.covers f e old) (by simpa using left)
  · -- What is still in place after disposal was in place before it.
    have before := provider_registerAll mem
    obtain ⟨e, placed, -⟩ := Option.map_eq_some_iff.1 (own.placed h mem)
    have kept := placed
    rw [inPlace?_disposeAll, Option.filter_eq_some_iff] at kept
    rw [provider?, kept.1] at before
    rw [provider?, placed]
    exact before

/-- All handles disposed of. -/
theorem clear (stocks : Stocks language provider hs r) : Stocks language provider [] (r.disposeAll hs) where
  ids := nofun
  covers := by
    intro f e placed
    rw [inPlace?_disposeAll, Option.filter_eq_some_iff] at placed
    exact absurd (stocks.covers f e placed.1) (by simpa using placed.2)
  placed := nofun
  whole := .inl rfl

/-- What somebody else does with the slots of other languages. -/
theorem elsewhere (stocks : Stocks language provider hs r) {r' : Registry} (made : r.made ≤ r'.made)
    (same : ∀ slot, slot.language = language → r'.inPlace? slot = r.inPlace? slot) :
    Stocks language provider hs r' where
  ids := fun h mem => Nat.le_trans (stocks.ids h mem) made
  covers := fun f e placed => stocks.covers f e (same ⟨f, language⟩ rfl ▸ placed)
  placed := by
    intro h mem
    rw [provider?, same h.slot (stocks.language_eq mem)]
    exact stocks.placed h mem
  whole := stocks.whole

end Stocks

end LanguageBridge.Editor.Registry
