import LanguageBridge.Rehearsal.Retry

/-!
# What becomes of the retries of a slot

On a stage timers elapse as soon as their time has come.  Here nothing of the kind is taken for
granted: time may pass without any timer running, a timer may come to run at any moment, and the
slot may be claimed with any token by anybody.  In this freedom lies every race between arming,
cancelling, claiming and elapsing, at equal instants too.

A `Chronicle` is a stage together with its history, in which each retry is armed, and then *revoked*
when it loses the slot to a cancellation, to a later retry or to the end of the slot, *claimed* when
the slot is claimed with its token, and *fired* when its timer elapses.  The history determines
what the slot and its timers are, which is `Sound`, and everything about them can be read off it.

The history is written down by `RetryStage.events`, from the state before each deed; no deed looks
at it.  What is read off it are lists of tokens (`armed`, `revoked`, `claimed`, `fired`), and the
lemmas here say how each of them grows.
-/

namespace LanguageBridge.Rehearsal

/-! ## Deeds and events -/

/-- What can be done to a slot and its timers. -/
inductive RetryDeed where
  | backoff (claims : Bool)
  | forced (claims : Bool)
  | cancel
  | reset
  | complete (token : Nat)
  | drop
  /-- Time passes, and no timer has run yet. -/
  | wait (time : Nat)
  /-- The timer of a retry comes to run. -/
  | elapse (token : Nat)

/-- What can happen to a retry. -/
inductive RetryEvent where
  | armed (token due : Nat)
  /-- The retry has lost the slot. -/
  | revoked (token : Nat)
  | claimed (token : Nat)
  | fired (token time : Nat)
  deriving DecidableEq

namespace RetryStage

/-- One deed done. -/
def deed (s : RetryStage) : RetryDeed → RetryStage
  | .backoff claims => (s.schedule Retry.scheduleBackoff claims).2
  | .forced claims => (s.schedule Retry.scheduleForced claims).2
  | .cancel => s.cancel.2
  | .reset => { s with retry := s.retry.map Retry.reset }
  | .complete token => (s.complete token).2
  | .drop => s.drop
  | .wait time => s.wait time
  | .elapse token => s.elapse token

/-- The pending retry loses the slot, if there is one. -/
def revocations (s : RetryStage) : List RetryEvent := s.pending?.toList.map .revoked

/-- A retry is armed, in place of the pending one. -/
def armings (s : RetryStage) (how : Retry → Retry.Armed × Retry) : List RetryEvent :=
  match s.retry with
  | none => []
  | some r =>
    s.revocations ++ [.armed (how r).1.token (Duration.dueAt s.agenda.now (how r).1.delay)]

/-- What one deed makes happen. -/
def events (s : RetryStage) : RetryDeed → List RetryEvent
  | .backoff _ => s.armings Retry.scheduleBackoff
  | .forced _ => s.armings Retry.scheduleForced
  | .cancel => s.revocations
  | .reset => []
  | .complete token => if (s.complete token).1 = .flag true then [.claimed token] else []
  | .drop => s.revocations
  | .wait _ => []
  | .elapse token =>
    if s.isDue token then
      .fired token s.agenda.now ::
        if (s.claim? token).map Prod.fst = some true then [.claimed token] else []
    else []

end RetryStage

/-- A stage and its history. -/
structure Chronicle where
  stage : RetryStage
  log : List RetryEvent

namespace Chronicle

/-- A fresh slot, without a history. -/
def fresh (backoff : Backoff) (forcedDelay : Duration) : Chronicle :=
  ⟨.fresh backoff forcedDelay, []⟩

/-- One deed done and written down. -/
def act (c : Chronicle) (d : RetryDeed) : Chronicle := ⟨c.stage.deed d, c.log ++ c.stage.events d⟩

/-- Some deeds done one after another. -/
def acts (c : Chronicle) (deeds : List RetryDeed) : Chronicle := deeds.foldl act c

theorem acts_append (c : Chronicle) (deeds more : List RetryDeed) :
    c.acts (deeds ++ more) = (c.acts deeds).acts more := List.foldl_append

/-- What each of some deeds keeps, they keep one after another. -/
theorem acts_keep {P : Chronicle → Prop} {c : Chronicle} {deeds : List RetryDeed}
    (keep : ∀ c, ∀ d ∈ deeds, P c → P (c.act d)) (holds : P c) : P (c.acts deeds) :=
  List.foldlRecOn deeds act holds fun c before d mem => keep c d mem before

/-- The stage of a chronicle does not depend on the history. -/
theorem stage_acts (c : Chronicle) (deeds : List RetryDeed) :
    (c.acts deeds).stage = deeds.foldl RetryStage.deed c.stage := by
  induction deeds generalizing c with
  | nil => rfl
  | cons d rest ih => exact ih (c.act d)

end Chronicle

/-! ## Reading a history -/

namespace RetryEvent

/-- The token of a retry that was armed. -/
def armed? : RetryEvent → Option Nat
  | .armed token _ => some token
  | .revoked _ => none
  | .claimed _ => none
  | .fired _ _ => none

/-- The token of a retry that has lost the slot. -/
def revoked? : RetryEvent → Option Nat
  | .armed _ _ => none
  | .revoked token => some token
  | .claimed _ => none
  | .fired _ _ => none

/-- The token with which the slot was claimed. -/
def claimed? : RetryEvent → Option Nat
  | .armed _ _ => none
  | .revoked _ => none
  | .claimed token => some token
  | .fired _ _ => none

/-- The token of a retry whose timer has elapsed. -/
def fired? : RetryEvent → Option Nat
  | .armed _ _ => none
  | .revoked _ => none
  | .claimed _ => none
  | .fired token _ => some token

/-- Whether a timer has elapsed. -/
def isFired : RetryEvent → Bool
  | .armed _ _ => false
  | .revoked _ => false
  | .claimed _ => false
  | .fired _ _ => true

end RetryEvent

/-- The tokens of the retries that were armed, in this order. -/
def armed (log : List RetryEvent) : List Nat := log.filterMap RetryEvent.armed?

/-- The tokens of the retries that have lost the slot. -/
def revoked (log : List RetryEvent) : List Nat := log.filterMap RetryEvent.revoked?

/-- The tokens with which the slot was claimed. -/
def claimed (log : List RetryEvent) : List Nat := log.filterMap RetryEvent.claimed?

/-- The tokens of the retries whose timers have elapsed. -/
def fired (log : List RetryEvent) : List Nat := log.filterMap RetryEvent.fired?

/-- A retry has lost the slot before its timer elapsed. -/
def RevokedFirst (log : List RetryEvent) (token : Nat) : Prop :=
  ∃ before after, log = before ++ .revoked token :: after ∧ token ∉ fired before

section Lists

variable (log more : List RetryEvent) (token : Nat)

/-- The retries that were armed, in two parts of a history. -/
@[simp] theorem armed_append : armed (log ++ more) = armed log ++ armed more :=
  List.filterMap_append

@[simp] theorem revoked_append : revoked (log ++ more) = revoked log ++ revoked more :=
  List.filterMap_append

@[simp] theorem claimed_append : claimed (log ++ more) = claimed log ++ claimed more :=
  List.filterMap_append

@[simp] theorem fired_append : fired (log ++ more) = fired log ++ fired more :=
  List.filterMap_append

theorem mem_revoked_iff : token ∈ revoked log ↔ RetryEvent.revoked token ∈ log := by
  simp only [revoked, List.mem_filterMap]
  constructor
  · rintro ⟨e, mem, own⟩
    cases e <;> cases own
    exact mem
  · exact fun mem => ⟨_, mem, rfl⟩

theorem mem_armed_iff : token ∈ armed log ↔ ∃ due, RetryEvent.armed token due ∈ log := by
  simp only [armed, List.mem_filterMap]
  constructor
  · rintro ⟨e, mem, own⟩
    cases e <;> cases own
    exact ⟨_, mem⟩
  · rintro ⟨due, mem⟩
    exact ⟨_, mem, rfl⟩

theorem mem_fired_iff : token ∈ fired log ↔ ∃ time, RetryEvent.fired token time ∈ log := by
  simp only [fired, List.mem_filterMap]
  constructor
  · rintro ⟨e, mem, own⟩
    cases e <;> cases own
    exact ⟨_, mem⟩
  · rintro ⟨time, mem⟩
    exact ⟨_, mem, rfl⟩

@[simp] theorem armed_revocations (s : RetryStage) : armed s.revocations = [] := by
  unfold RetryStage.revocations
  cases s.pending? <;> rfl

/-- The pending retry loses the slot, and no other can. -/
@[simp] theorem revoked_revocations (s : RetryStage) : revoked s.revocations = s.pending?.toList := by
  unfold RetryStage.revocations
  cases s.pending? <;> rfl

@[simp] theorem claimed_revocations (s : RetryStage) : claimed s.revocations = [] := by
  unfold RetryStage.revocations
  cases s.pending? <;> rfl

@[simp] theorem fired_revocations (s : RetryStage) : fired s.revocations = [] := by
  unfold RetryStage.revocations
  cases s.pending? <;> rfl

/-- So it leaves no record of a timer that has elapsed. -/
@[simp] theorem filter_revocations (s : RetryStage) :
    s.revocations.filter RetryEvent.isFired = [] := by
  unfold RetryStage.revocations
  cases s.pending? <;> rfl

end Lists

section First

variable {log more : List RetryEvent} {token : Nat}

/-- Where the timer of a retry has not elapsed, its retry was revoked first if it was revoked. -/
theorem revokedFirst_iff (running : token ∉ fired log) :
    RevokedFirst log token ↔ token ∈ revoked log := by
  rw [mem_revoked_iff]
  constructor
  · rintro ⟨before, after, split, -⟩
    rw [split]
    exact List.mem_append_right before List.mem_cons_self
  · intro mem
    obtain ⟨before, after, split⟩ := List.append_of_mem mem
    refine ⟨before, after, split, fun elapsed => running ?_⟩
    rw [split, fired_append]
    exact List.mem_append_left _ elapsed

/-- What comes later makes a revocation the first thing only if it is one, and the timer is still
running. -/
theorem RevokedFirst.append (first : RevokedFirst (log ++ more) token) :
    RevokedFirst log token ∨ token ∉ fired log ∧ token ∈ revoked more := by
  obtain ⟨before, after, split, running⟩ := first
  rcases List.append_eq_append_iff.1 split with ⟨front, same, rest⟩ | ⟨back, same, rest⟩
  · refine Or.inr ⟨fun elapsed => running ?_, ?_⟩
    · rw [same, fired_append]
      exact List.mem_append_left _ elapsed
    · rw [mem_revoked_iff, rest]
      exact List.mem_append_right front List.mem_cons_self
  · cases back with
    | nil =>
        rw [List.append_nil] at same
        refine Or.inr ⟨same ▸ running, ?_⟩
        rw [mem_revoked_iff, ← List.nil_append more, ← rest]
        exact List.mem_cons_self
    | cons e back =>
        rw [List.cons_append, List.cons.injEq] at rest
        obtain ⟨rfl, -⟩ := rest
        exact Or.inl ⟨before, back, same, running⟩

end First

end LanguageBridge.Rehearsal
