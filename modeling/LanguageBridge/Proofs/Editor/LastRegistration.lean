import LanguageBridge.Proofs.Editor.Registry
import Mathlib.Data.List.Induction
import Mathlib.Data.Finset.Card

/-!
# The last registration wins

Handles outlive the registrations that they stand for.  Providers are registered one over the other,
and the handles come back later, in any order.  `last_registration_wins` says what is in place then,
from the history alone: for each slot the provider that was registered for it last, unless its own
handle has been released since, and then nothing, as an older provider does not come back.

Two views of a history carry this.  What is in place for a slot can be told from where the history
last registers for it (`LastOf`), by induction along the history from its end.  And a handle that is
*spent*, because it has been released or superseded, stays so (`Spent`), since no later registration
has its number; this is why releasing it does nothing.
-/

namespace LanguageBridge.Editor.Registry

/-! ## Histories -/

/-- One use of a registry. -/
inductive Use where
  /-- A provider is registered. -/
  | register (slot : Slot) (provider : Nat)
  /-- A handle is disposed of or dropped. -/
  | release (h : Handle)
  deriving DecidableEq

/-- A registry used once. -/
def use (r : Registry) : Use → Registry
  | .register slot provider => (r.register slot provider).2
  | .release h => r.dispose h

/-- A registry used several times. -/
def uses (r : Registry) (history : List Use) : Registry := history.foldl use r

theorem uses_append (r : Registry) (before after : List Use) :
    r.uses (before ++ after) = (r.uses before).uses after := List.foldl_append

theorem uses_concat (r : Registry) (before : List Use) (last : Use) :
    r.uses (before ++ [last]) = (r.uses before).use last := uses_append r before [last]

/-- Where something stands in a list that has become longer by one: at its end, or where it
stood. -/
theorem concat_eq_append_cons {α : Type} {before history after : List α} {last u : α} :
    history ++ [last] = before ++ u :: after ↔
      history = before ∧ last = u ∧ after = [] ∨
        ∃ rest, history = before ++ u :: rest ∧ after = rest ++ [last] := by
  constructor
  · intro same
    rcases List.eq_nil_or_concat' after with rfl | ⟨rest, end_, rfl⟩
    · obtain ⟨rfl, own⟩ := List.append_inj' same rfl
      cases own
      exact .inl ⟨rfl, rfl, rfl⟩
    · rw [← List.cons_append, ← List.append_assoc] at same
      obtain ⟨rfl, own⟩ := List.append_inj' same rfl
      cases own
      exact .inr ⟨rest, rfl, rfl⟩
  · rintro (⟨rfl, rfl, rfl⟩ | ⟨rest, rfl, rfl⟩)
    · rfl
    · rw [List.append_assoc, List.cons_append]

/-! ## What is in place -/

/-- A history registers a provider, nothing for the same slot after it, and does not release its
handle after it. -/
def LastOf (history : List Use) (e : Registration) : Prop :=
  ∃ before after, history = before ++ .register e.slot e.provider :: after ∧
    ((empty.uses before).register e.slot e.provider).1 = ⟨e.slot, e.id⟩ ∧
    (∀ q, .register e.slot q ∉ after) ∧ .release ⟨e.slot, e.id⟩ ∉ after

/-- One more use is itself the last registration for its slot, or it leaves the last one as it
is. -/
theorem lastOf_concat {history : List Use} {last : Use} {e : Registration} :
    LastOf (history ++ [last]) e ↔
      last = .register e.slot e.provider ∧ (empty.uses history).made + 1 = e.id ∨
        LastOf history e ∧ (∀ q, last ≠ .register e.slot q) ∧ last ≠ .release ⟨e.slot, e.id⟩ := by
  constructor
  · rintro ⟨before, after, split, issued, newest, kept⟩
    rcases concat_eq_append_cons.1 split with ⟨rfl, own, -⟩ | ⟨rest, rfl, rfl⟩
    · exact .inl ⟨own, congrArg Handle.id issued⟩
    · have there : last ∈ rest ++ [last] := List.mem_append_right rest (List.mem_singleton_self last)
      refine .inr ⟨⟨before, rest, rfl, issued, fun q mem => ?_, fun mem => ?_⟩, ?_, ?_⟩
      · exact newest q (List.mem_append_left _ mem)
      · exact kept (List.mem_append_left _ mem)
      · rintro q rfl
        exact newest q there
      · rintro rfl
        exact kept there
  · rintro (⟨rfl, issued⟩ | ⟨⟨before, after, rfl, issued, newest, kept⟩, other, other'⟩)
    · exact ⟨history, [], rfl, congrArg _ issued, fun q => List.not_mem_nil, List.not_mem_nil⟩
    · refine ⟨before, after ++ [last], ?_, issued, fun q mem => ?_, fun mem => ?_⟩
      · rw [List.append_assoc, List.cons_append]
      · rcases List.mem_append.1 mem with old | new
        · exact newest q old
        · exact other q (List.mem_singleton.1 new).symm
      · rcases List.mem_append.1 mem with old | new
        · exact kept old
        · exact other' (List.mem_singleton.1 new).symm

/-- What is in place for a slot is the last registration for it. -/
theorem inPlace?_uses {history : List Use} {slot : Slot} {e : Registration} :
    (empty.uses history).inPlace? slot = some e ↔ e.slot = slot ∧ LastOf history e := by
  induction history using List.reverseRecOn generalizing e with
  | nil =>
      constructor
      · intro placed
        cases placed
      · rintro ⟨-, before, after, split, -⟩
        cases before <;> cases split
  | append_singleton history last ih =>
      rw [uses_concat, lastOf_concat]
      cases last with
      | register other provider =>
          show ((empty.uses history).register other provider).2.inPlace? slot = some e ↔ _
          by_cases own : slot = other
          · subst own
            rw [inPlace?_register_self, Option.some.injEq]
            constructor
            · rintro rfl
              exact ⟨rfl, .inl ⟨rfl, rfl⟩⟩
            · rintro ⟨rfl, ⟨same, issued⟩ | ⟨-, superseded, -⟩⟩
              · cases e
                cases same
                cases issued
                rfl
              · exact absurd rfl (superseded provider)
          · rw [inPlace?_register_of_ne _ _ own, ih]
            refine and_congr_right fun here => ?_
            simp [here, Ne.symm own]
      | release h =>
          show ((empty.uses history).dispose h).inPlace? slot = some e ↔ _
          rw [inPlace?_dispose, Option.filter_eq_some_iff, ih, decide_eq_true_iff, and_assoc]
          refine and_congr_right fun here => ?_
          simp [here, eq_comm]

/-! ## Handles that are spent -/

/-- A handle whose registration was made and is not in place any more. -/
structure Spent (h : Handle) (r : Registry) : Prop where
  issued : h.id ≤ r.made
  gone : (r.inPlace? h.slot).map (·.id) ≠ some h.id

theorem made_dispose (r : Registry) (h : Handle) : (r.dispose h).made = r.made :=
  made_disposeAll r [h]

/-- A handle that has been released is spent. -/
theorem spent_dispose {r : Registry} {h : Handle} (issued : h.id ≤ r.made) :
    Spent h (r.dispose h) where
  issued := by rwa [made_dispose]
  gone := by
    rw [inPlace?_dispose]
    intro own
    obtain ⟨e, placed, id⟩ := Option.map_eq_some_iff.1 own
    obtain ⟨-, other⟩ := Option.filter_eq_some_iff.1 placed
    exact of_decide_eq_true other (congrArg (Handle.mk h.slot) id)

/-- A handle that has been superseded is spent. -/
theorem spent_register {r : Registry} {h : Handle} (issued : h.id ≤ r.made) (provider : Nat) :
    Spent h (r.register h.slot provider).2 where
  issued := Nat.le_succ_of_le issued
  gone := by
    rw [inPlace?_register_self]
    intro own
    exact absurd (Option.some.inj own) (Nat.ne_of_gt (Nat.lt_succ_of_le issued))

namespace Spent

variable {h : Handle} {r : Registry}

/-- What is done afterwards does not put its registration back. -/
theorem use (spent : Spent h r) (u : Use) : Spent h (r.use u) := by
  cases u with
  | register slot provider =>
      by_cases own : h.slot = slot
      · subst own
        exact spent_register spent.issued provider
      · refine ⟨Nat.le_succ_of_le spent.issued, ?_⟩
        show ((r.register slot provider).2.inPlace? h.slot).map _ ≠ _
        rw [inPlace?_register_of_ne r provider own]
        exact spent.gone
  | release other =>
      refine ⟨(made_dispose r other).symm ▸ spent.issued, ?_⟩
      show ((r.dispose other).inPlace? h.slot).map _ ≠ _
      rw [inPlace?_dispose]
      intro back
      obtain ⟨e, placed, id⟩ := Option.map_eq_some_iff.1 back
      refine spent.gone ?_
      rw [(Option.filter_eq_some_iff.1 placed).1, Option.map_some, id]

/-- What is spent stays spent, whatever is done afterwards. -/
theorem uses (spent : Spent h r) (history : List Use) : Spent h (r.uses history) :=
  List.foldlRecOn history Registry.use spent fun _ before u _ => before.use u

/-- A spent handle does nothing. -/
theorem dispose (spent : Spent h r) : r.dispose h = r := dispose_of_ne spent.gone

end Spent

theorem made_le_uses (r : Registry) (history : List Use) : r.made ≤ (r.uses history).made := by
  refine List.foldlRecOn history use (motive := fun s => r.made ≤ s.made) (Nat.le_refl _)
    fun s before u _ => Nat.le_trans before ?_
  cases u with
  | register slot provider => exact Nat.le_succ _
  | release h => exact Nat.le_of_eq (made_dispose s h).symm

/-! ## The slots with a provider -/

/-- The slots with a registration in place. -/
def slots (r : Registry) : List Slot := r.entries.map (·.slot)

/-- A slot has a provider if something is in place for it. -/
theorem mem_slots_iff {r : Registry} {slot : Slot} : slot ∈ r.slots ↔ (r.provider? slot).isSome := by
  rw [provider?, Option.isSome_map, inPlace?, List.find?_isSome, slots, List.mem_map]
  simp

theorem slots_clear (r : Registry) (slot : Slot) :
    (r.clear slot).slots = r.slots.filter (· ≠ slot) := by
  rw [slots, slots, List.filter_map]
  rfl

/-- A slot that is registered for has one, and has it once. -/
theorem slots_register (r : Registry) (slot : Slot) (provider : Nat) :
    (r.register slot provider).2.slots = r.slots.filter (· ≠ slot) ++ [slot] := by
  rw [← slots_clear]
  exact List.map_append

/-- No two registrations in place have the same slot. -/
theorem nodup_slots_uses (history : List Use) : (empty.uses history).slots.Nodup := by
  have none : empty.slots.Nodup := List.nodup_nil
  refine List.foldlRecOn history use (motive := fun r => r.slots.Nodup) none
    fun r distinct u _ => ?_
  cases u with
  | register slot provider =>
      show (r.register slot provider).2.slots.Nodup
      rw [slots_register]
      refine List.nodup_append.2 ⟨distinct.filter _, List.nodup_singleton slot, ?_⟩
      rintro other mem _ own rfl
      exact of_decide_eq_true (List.mem_filter.1 mem).2 (List.mem_singleton.1 own)
  | release h =>
      show (r.dispose h).slots.Nodup
      unfold dispose
      split
      · rw [slots_clear]
        exact distinct.filter _
      · exact distinct

/-! ## Whole histories -/

/-- What a history leaves in a registry that was empty, and which handles still act on it. -/
structure LastWins (history : List Use) (r : Registry) : Prop where
  /-- A slot has the provider that was registered for it last, as long as its own handle has not
  been released since; otherwise it has none. -/
  provider : ∀ slot p, r.provider? slot = some p ↔
    ∃ before after, history = before ++ .register slot p :: after ∧
      (∀ q, .register slot q ∉ after) ∧
      .release ((empty.uses before).register slot p).1 ∉ after
  /-- Releasing a handle leaves all other slots as they are. -/
  elsewhere : ∀ h slot, slot ≠ h.slot → (r.dispose h).provider? slot = r.provider? slot
  /-- Releasing a handle that has been superseded does nothing. -/
  superseded : ∀ before slot p between q after,
    history = before ++ .register slot p :: between ++ .register slot q :: after →
      r.dispose ((empty.uses before).register slot p).1 = r
  /-- Releasing a handle a second time does nothing, if it had been given out before the first. -/
  once : ∀ before h after, history = before ++ .release h :: after →
    h.id ≤ (empty.uses before).made → r.dispose h = r
  /-- The registrations in place are as many as there are slots with a provider. -/
  count : ∃ live : Finset Slot, (∀ slot, slot ∈ live ↔ (r.provider? slot).isSome) ∧
    r.count = live.card

/-- After any history, what is in place is told from the last registration for each slot, and every
handle acts at most once. -/
theorem last_registration_wins (history : List Use) : LastWins history (empty.uses history) where
  provider slot p := by
    rw [provider?, Option.map_eq_some_iff]
    constructor
    · rintro ⟨e, placed, rfl⟩
      obtain ⟨rfl, before, after, split, issued, newest, kept⟩ := inPlace?_uses.1 placed
      exact ⟨before, after, split, newest, issued ▸ kept⟩
    · rintro ⟨before, after, split, newest, kept⟩
      exact ⟨⟨slot, (empty.uses before).made + 1, p⟩,
        inPlace?_uses.2 ⟨rfl, before, after, split, rfl, newest, kept⟩, rfl⟩
  elsewhere h slot other := by
    rw [provider?, provider?, inPlace?_dispose_of_ne _ h other]
  superseded := by
    rintro before slot p between q after rfl
    have issued : ((empty.uses before).register slot p).1.id
        ≤ (empty.uses (before ++ .register slot p :: between)).made := by
      rw [uses_append]
      exact made_le_uses ((empty.uses before).register slot p).2 between
    rw [uses_append]
    exact ((spent_register issued q).uses after).dispose
  once := by
    rintro before h after rfl issued
    rw [uses_append]
    exact ((spent_dispose issued).uses after).dispose
  count := by
    refine ⟨(empty.uses history).slots.toFinset, fun slot => ?_, ?_⟩
    · rw [List.mem_toFinset, mem_slots_iff]
    · rw [List.toFinset_card_of_nodup (nodup_slots_uses history)]
      exact (List.length_map _).symm

/-- Releasing the handle of the first provider leaves the second one in place, and releasing that of
the second one does not bring the first one back. -/
example :
    let slot : Slot := ⟨.hover, "python"⟩
    let history : List Use := [.register slot 1, .register slot 2, .release ⟨slot, 1⟩]
    (empty.uses history).provider? slot = some 2 ∧
      (empty.uses (history ++ [.release ⟨slot, 2⟩])).provider? slot = none := by decide

end LanguageBridge.Editor.Registry
