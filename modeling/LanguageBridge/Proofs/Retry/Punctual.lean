import LanguageBridge.Proofs.Retry.Sound

/-!
# Retries elapse on time, or not at all

What the history of a slot tells about its retries.

* `Chronicle.orderly`: whatever is done to a slot, tokens increase; the slot is claimed at most once
  with each of them, and only by the retry that was armed last and has kept it; and a timer that
  comes to run elapses if its time has come and its retry has not lost the slot.
* `Chronicle.oneLive`: where only timers claim the slot, at most one timer is running, and it is
  that of the pending retry.
* `Chronicle.punctual`: on a stage every timer elapses at its own time, unless its retry has lost
  the slot before.

## Three degrees of freedom

The three hold under more and more assumptions, and each is proved from an invariant of its own.
`Sound` is kept by any deed at any moment.  `Exclusive` is kept if nobody but a timer claims the
slot (`RetryDeed.Honest`); somebody else who does leaves a timer running that finds the slot taken.
`OnTime` is kept if no timer is passed over, and a stage sees to that, as it stops at each due time
(`RetryStage.passage`).

A move of a stage is a list of deeds, so what holds of all deeds is known of stages already
(`Chronicle.moves_eq_acts`).
-/

namespace LanguageBridge.Rehearsal

open RetryStage

/-! ## Whatever is done

Timers may run at any time, early, late or twice, and somebody else may claim the slot. -/

/-- Timers elapse when they come to run and their time has come, and in no other way. -/
theorem RetryStage.fired_mem_events {s : RetryStage} {d : RetryDeed} {token time : Nat} :
    .fired token time ∈ s.events d ↔
      d = .elapse token ∧ time = s.agenda.now ∧ s.isDue token = true := by
  have silent (how : Retry → Retry.Armed × Retry) : .fired token time ∉ s.armings how := by
    unfold armings
    split <;> simp [revocations]
  cases d with
  | backoff claims => exact iff_of_false (silent _) (by simp)
  | forced claims => exact iff_of_false (silent _) (by simp)
  | cancel => exact iff_of_false (by simp [events, revocations]) (by simp)
  | reset => exact iff_of_false List.not_mem_nil (by simp)
  | complete t =>
      refine iff_of_false ?_ (by simp)
      simp only [events]
      split <;> simp
  | drop => exact iff_of_false (by simp [events, revocations]) (by simp)
  | wait t => exact iff_of_false List.not_mem_nil (by simp)
  | elapse t =>
      simp only [events]
      by_cases due : s.isDue t = true
      · rw [if_pos due, List.mem_cons]
        constructor
        · rintro (own | claim)
          · cases own
            exact ⟨rfl, rfl, due⟩
          · split at claim <;> simp at claim
        · rintro ⟨⟨⟩, rfl, -⟩
          exact .inl rfl
      · rw [if_neg due]
        refine iff_of_false List.not_mem_nil ?_
        rintro ⟨⟨⟩, -, here⟩
        exact due here

/-- How the retries of a slot go. -/
structure Orderly (c : Chronicle) : Prop where
  increasing : (armed c.log).Pairwise (· < ·)
  /-- The slot is claimed by the retry that was armed last, if it has kept it. -/
  claims : ∀ t, (c.stage.complete t).1 = .flag true ↔
    (armed c.log).getLast? = some t ∧ t ∉ revoked c.log ∧ t ∉ claimed c.log
  claimed_once : (claimed c.log).Nodup
  fired_once : (fired c.log).Nodup
  /-- A timer that comes to run elapses if its time has come, unless it has done so before or its
  retry has lost the slot. -/
  elapses : ∀ t, t ∈ fired (c.stage.events (.elapse t)) ↔ ∃ due, .armed t due ∈ c.log ∧
    due ≤ c.stage.agenda.now ∧ t ∉ fired c.log ∧ ¬RevokedFirst c.log t
  /-- No timer elapses early. -/
  late : ∀ t time, .fired t time ∈ c.log → ∃ due, .armed t due ∈ c.log ∧ due ≤ time
  /-- A retry that has lost the slot does not fire. -/
  stopped : ∀ t, RevokedFirst c.log t → t ∉ fired c.log
  /-- What the stage has on record is what has happened. -/
  records : c.stage.fired.map Fired.event = c.log.filter RetryEvent.isFired

namespace Sound

variable {s : RetryStage} {log : List RetryEvent}

/-- A timer has come due if its retry was armed for that time, has not fired and has not lost the
slot. -/
theorem isDue_iff (sound : Sound s log) {t : Nat} : s.isDue t = true ↔ ∃ due, .armed t due ∈ log ∧
    due ≤ s.agenda.now ∧ t ∉ fired log ∧ ¬RevokedFirst log t := by
  rw [RetryStage.isDue_iff]
  refine exists_congr fun due => ?_
  rw [sound.running]
  constructor
  · rintro ⟨⟨mem, unfired, unrevoked⟩, reached⟩
    exact ⟨mem, reached, unfired, fun first => unrevoked ((revokedFirst_iff unfired).1 first)⟩
  · rintro ⟨mem, reached, unfired, first⟩
    exact ⟨⟨mem, unfired, fun revoked => first ((revokedFirst_iff unfired).2 revoked)⟩, reached⟩

/-- All of it follows from the history, but for the times, which are a matter of who lets time
pass. -/
theorem orderly (sound : Sound s log)
    (late : ∀ t time, .fired t time ∈ log → ∃ due, .armed t due ∈ log ∧ due ≤ time) :
    Orderly ⟨s, log⟩ where
  increasing := by
    show (armed log).Pairwise (· < ·)
    rw [sound.numbered]
    exact List.pairwise_lt_range'
  claims := fun t => RetryStage.complete_iff.trans (sound.slot t)
  claimed_once := sound.claimed_once
  fired_once := sound.fired_once
  elapses := by
    intro t
    refine Iff.trans ?_ sound.isDue_iff
    rw [mem_fired_iff]
    simp only [fired_mem_events, true_and, exists_eq_left]
  late := late
  stopped := sound.order
  records := sound.records

end Sound

/-- Whatever is done to a slot, its retries go in order. -/
theorem Chronicle.orderly (backoff : Backoff) (forcedDelay : Duration) (deeds : List RetryDeed) :
    Orderly ((fresh backoff forcedDelay).acts deeds) := by
  let P (c : Chronicle) : Prop := Sound c.stage c.log ∧
    ∀ t time, .fired t time ∈ c.log → ∃ due, .armed t due ∈ c.log ∧ due ≤ time
  have keep : ∀ c, ∀ d ∈ deeds, P c → P (c.act d) := by
    rintro c d - ⟨sound, late⟩
    refine ⟨sound.act d, fun t time elapsed => ?_⟩
    rcases List.mem_append.1 elapsed with before | now
    · obtain ⟨due, mem, reached⟩ := late t time before
      exact ⟨due, List.mem_append_left _ mem, reached⟩
    · obtain ⟨-, rfl, ready⟩ := fired_mem_events.1 now
      obtain ⟨due, running, reached⟩ := RetryStage.isDue_iff.1 ready
      exact ⟨due, List.mem_append_left _ ((sound.running t due).1 running).1, reached⟩
  obtain ⟨sound, late⟩ := acts_keep keep (c := fresh backoff forcedDelay)
    ⟨sound_fresh backoff forcedDelay, nofun⟩
  exact sound.orderly late

/-! ## Where only timers claim the slot

Then the pending retry has its timer, and no other retry has. -/

/-- A deed of somebody who leaves it to the timers to claim the slot, and has all of them do so. -/
def RetryDeed.Honest : RetryDeed → Prop
  | .backoff claims => claims = true
  | .forced claims => claims = true
  | .cancel => True
  | .reset => True
  | .complete _ => False
  | .drop => True
  | .wait _ => True
  | .elapse _ => True

/-- The timer of the pending retry is running, and no other. -/
structure Exclusive (s : RetryStage) : Prop where
  timers : s.agenda.timers.map Timer.task = s.pending?.toList
  claiming : ∀ t ∈ s.agenda.timers, t.task ∈ s.claiming

namespace Exclusive

variable {s : RetryStage}

/-- Without its pending retry a slot of this kind has no timer left. -/
theorem timers_stopPending (exclusive : Exclusive s) : s.stopPending.agenda.timers = [] := by
  have own := exclusive.timers
  unfold stopPending
  cases pending : s.pending? with
  | none =>
      rw [pending] at own
      exact List.map_eq_nil_iff.1 own
  | some token =>
      rw [pending] at own
      refine List.filter_eq_nil_iff.2 fun t mem => ?_
      have same : t.task ∈ s.agenda.timers.map Timer.task := List.mem_map_of_mem mem
      rw [own, Option.mem_toList] at same
      simp [Option.some.inj same]

/-- A new retry takes the place of the pending one, and its timer too. -/
theorem schedule (exclusive : Exclusive s) {how : Retry → Retry.Armed × Retry} (arms : Arms how) :
    Exclusive (s.schedule how true).2 := by
  unfold RetryStage.schedule
  cases slot : s.retry with
  | none => exact exclusive
  | some r =>
      have timers : ({ s.stopPending with retry := some (how r).2 }.launch (how r).1 true).agenda.timers
          = [⟨Duration.dueAt s.stopPending.agenda.now (how r).1.delay, (how r).1.token⟩] := by
        show s.stopPending.agenda.timers ++ _ = _
        rw [exclusive.timers_stopPending]
        rfl
      refine ⟨?_, ?_⟩
      · rw [timers]
        show [(how r).1.token] = (how r).2.pending.toList
        rw [arms.token, arms.pending]
        rfl
      · rw [timers]
        intro t mem
        rw [List.mem_singleton.1 mem]
        exact List.mem_append_right _ (List.mem_singleton.2 rfl)

/-- A slot whose pending retry has been revoked. -/
theorem revoked (exclusive : Exclusive s) {retry : Option Retry}
    (vacant : retry.bind Retry.pending = none) : Exclusive { s.stopPending with retry } where
  timers := by
    show s.stopPending.agenda.timers.map _ = (retry.bind Retry.pending).toList
    rw [exclusive.timers_stopPending, vacant]
    rfl
  claiming := by
    show ∀ t ∈ s.stopPending.agenda.timers, _
    rw [exclusive.timers_stopPending]
    nofun

/-- The timer that elapses is that of the pending retry, which claims the slot. -/
theorem elapse (exclusive : Exclusive s) (token : Nat) : Exclusive (s.elapse token) := by
  unfold RetryStage.elapse
  split
  · rename_i due
    obtain ⟨time, running, -⟩ := RetryStage.isDue_iff.1 due
    have own : token ∈ s.agenda.timers.map Timer.task := List.mem_map_of_mem running
    have pending : s.pending? = some token := by
      rwa [exclusive.timers, Option.mem_toList] at own
    have stopped : (s.stop token).agenda.timers = [] := by
      have none := exclusive.timers_stopPending
      rwa [stopPending, pending] at none
    obtain ⟨r, slot, holds⟩ := Option.bind_eq_some_iff.1 pending
    have claim : s.claim? token = some (r.claim token) := by
      rw [claim?, if_pos (exclusive.claiming _ running), slot]
      rfl
    refine ⟨?_, ?_⟩
    · show (s.stop token).agenda.timers.map _
        = ((((s.claim? token).map Prod.snd).or s.retry).bind Retry.pending).toList
      rw [stopped, claim]
      show [] = (r.claim token).2.pending.toList
      rw [pending_claim, if_pos holds]
      rfl
    · show ∀ t ∈ (s.stop token).agenda.timers, _
      rw [stopped]
      exact fun t none => absurd none List.not_mem_nil
  · exact exclusive

theorem deed (exclusive : Exclusive s) {d : RetryDeed} (honest : d.Honest) :
    Exclusive (s.deed d) := by
  cases d with
  | backoff claims =>
      obtain rfl : claims = true := honest
      exact exclusive.schedule arms_backoff
  | forced claims =>
      obtain rfl : claims = true := honest
      exact exclusive.schedule arms_forced
  | cancel =>
      show Exclusive s.cancel.2
      unfold RetryStage.cancel
      cases s.retry with
      | none => exact exclusive
      | some r => exact exclusive.revoked rfl
  | reset =>
      refine ⟨?_, exclusive.claiming⟩
      show s.agenda.timers.map _ = ((s.retry.map Retry.reset).bind Retry.pending).toList
      rw [exclusive.timers, pending?]
      cases s.retry <;> rfl
  | complete token => cases honest
  | drop => exact exclusive.revoked rfl
  | wait time => exact ⟨exclusive.timers, exclusive.claiming⟩
  | elapse token => exact exclusive.elapse token

end Exclusive

theorem Chronicle.exclusive (backoff : Backoff) (forcedDelay : Duration) {deeds : List RetryDeed}
    (honest : ∀ d ∈ deeds, d.Honest) :
    Exclusive ((fresh backoff forcedDelay).acts deeds).stage :=
  acts_keep (P := fun c => Exclusive c.stage) (fun _ d mem holds => holds.deed (honest d mem))
    ⟨rfl, nofun⟩

/-- A slot with one live retry at most: one that was armed and has neither fired nor lost the slot
is the pending one, and its timer is the only one that is running. -/
structure OneLive (c : Chronicle) : Prop where
  live : ∀ t, t ∈ armed c.log ∧ t ∉ fired c.log ∧ t ∉ revoked c.log ↔ c.stage.pending? = some t
  timers : c.stage.agenda.timers.map Timer.task = c.stage.pending?.toList

/-- Where only timers claim the slot, one retry is live at most. -/
theorem Chronicle.oneLive (backoff : Backoff) (forcedDelay : Duration) {deeds : List RetryDeed}
    (honest : ∀ d ∈ deeds, d.Honest) : OneLive ((fresh backoff forcedDelay).acts deeds) := by
  have sound := Chronicle.sound backoff forcedDelay deeds
  have timers := (Chronicle.exclusive backoff forcedDelay honest).timers
  refine ⟨fun t => ?_, timers⟩
  rw [← Option.mem_toList, ← timers, List.mem_map, mem_armed_iff]
  constructor
  · rintro ⟨⟨due, armed⟩, unfired, unrevoked⟩
    exact ⟨⟨due, t⟩, (sound.running t due).2 ⟨armed, unfired, unrevoked⟩, rfl⟩
  · rintro ⟨⟨due, _⟩, running, rfl⟩
    obtain ⟨armed, kept⟩ := (sound.running _ due).1 running
    exact ⟨⟨due, armed⟩, kept⟩

/-! ## On a stage

Then each timer runs when it is due: a stage lets time pass up to the next due time, and runs what
is due there before it goes on. -/

namespace RetryStage

/-- The deeds by which time passes up to a time on a stage: every timer that is due by then elapses
at its own time. -/
def passage (s : RetryStage) (time : Nat) : List RetryDeed :=
  (s.dueBy time).flatMap (fun t => [.wait t.due, .elapse t.task]) ++ [.wait time]

/-- The deeds of one move, before any timer elapses because of it. -/
def deeds (s : RetryStage) : RetryStep → List RetryDeed
  | .backoff claims => [.backoff claims]
  | .forced claims => [.forced claims]
  | .cancel => [.cancel]
  | .reset => [.reset]
  | .complete token => [.complete token]
  | .advance ms => s.passage (s.agenda.now + ms)
  | .drop => [.drop]

/-- The stage after some moves. -/
def after (s : RetryStage) (moves : List RetryStep) : RetryStage :=
  moves.foldl (fun s m => (s.move m).2) s

/-- Only the passing of time moves the clock, and whatever is armed is due later. -/
theorem deed_agenda (s : RetryStage) {d : RetryDeed} (instant : ∀ time, d ≠ .wait time) :
    (s.deed d).agenda.now = s.agenda.now ∧
      ∀ t ∈ (s.deed d).agenda.timers, t ∈ s.agenda.timers ∨ s.agenda.now ≤ t.due := by
  have still {u : RetryStage} (same : u.agenda = s.agenda) : u.agenda.now = s.agenda.now ∧
      ∀ t ∈ u.agenda.timers, t ∈ s.agenda.timers ∨ s.agenda.now ≤ t.due := by
    rw [same]
    exact ⟨rfl, fun t mem => .inl mem⟩
  have stopped {u : RetryStage} (same : u.agenda = s.stopPending.agenda) :
      u.agenda.now = s.agenda.now ∧
        ∀ t ∈ u.agenda.timers, t ∈ s.agenda.timers ∨ s.agenda.now ≤ t.due := by
    rw [same]
    exact ⟨s.now_stopPending, fun t mem => .inl (s.sublist_stopPending.subset mem)⟩
  have scheduled (how : Retry → Retry.Armed × Retry) (claims : Bool) :
      (s.schedule how claims).2.agenda.now = s.agenda.now ∧
        ∀ t ∈ (s.schedule how claims).2.agenda.timers,
          t ∈ s.agenda.timers ∨ s.agenda.now ≤ t.due := by
    unfold schedule
    split
    · exact still rfl
    · refine ⟨s.now_stopPending, fun t mem => ?_⟩
      rcases List.mem_append.1 mem with before | own
      · exact .inl (s.sublist_stopPending.subset before)
      · rw [List.mem_singleton.1 own, ← s.now_stopPending]
        exact .inr (Nat.le_add_right _ _)
  cases d with
  | backoff claims => exact scheduled _ claims
  | forced claims => exact scheduled _ claims
  | cancel =>
      show s.cancel.2.agenda.now = _ ∧ ∀ t ∈ s.cancel.2.agenda.timers, _
      unfold cancel
      split
      · exact still rfl
      · exact stopped rfl
  | reset => exact still rfl
  | complete token =>
      refine still ?_
      show (s.complete token).2.agenda = s.agenda
      unfold complete
      split <;> rfl
  | drop => exact stopped rfl
  | wait time => exact absurd rfl (instant time)
  | elapse token =>
      show (s.elapse token).agenda.now = _ ∧ ∀ t ∈ (s.elapse token).agenda.timers, _
      unfold elapse
      split
      · exact ⟨rfl, fun t mem => .inl ((List.mem_filter.1 mem).1)⟩
      · exact still rfl

end RetryStage

namespace Chronicle

/-- One move of a stage written down. -/
def move (c : Chronicle) (m : RetryStep) : Chronicle :=
  let c := c.acts (c.stage.deeds m)
  c.acts (c.stage.passage c.stage.agenda.now)

/-- Some moves of a stage written down. -/
def moves (c : Chronicle) (ms : List RetryStep) : Chronicle := ms.foldl move c

/-- Letting time pass, as the deeds that it is made of. -/
theorem stage_passage (c : Chronicle) (time : Nat) :
    (c.acts (c.stage.passage time)).stage = c.stage.reach time := by
  rw [stage_acts, passage, List.foldl_append, List.foldl_flatMap]
  rfl

theorem stage_move (c : Chronicle) (m : RetryStep) : (c.move m).stage = (c.stage.move m).2 := by
  have acted : (c.acts (c.stage.deeds m)).stage = (c.stage.act m).2 := by
    cases m with
    | advance ms => exact c.stage_passage _
    | _ => rfl
  show ((c.acts (c.stage.deeds m)).acts
    ((c.acts (c.stage.deeds m)).stage.passage _)).stage = _
  rw [stage_passage, acted]
  rfl

/-- What is written down is what happens on the stage. -/
theorem stage_moves (c : Chronicle) (ms : List RetryStep) :
    (c.moves ms).stage = c.stage.after ms := by
  induction ms generalizing c with
  | nil => rfl
  | cons m rest ih =>
      show ((c.move m).moves rest).stage = (c.stage.move m).2.after rest
      rw [ih, stage_move]

/-- The moves of a stage are made of deeds. -/
theorem moves_eq_acts (c : Chronicle) (ms : List RetryStep) : ∃ deeds, c.moves ms = c.acts deeds := by
  induction ms generalizing c with
  | nil => exact ⟨[], rfl⟩
  | cons m rest ih =>
      obtain ⟨first, acted⟩ : ∃ deeds, c.move m = c.acts deeds := ⟨_, (acts_append c _ _).symm⟩
      obtain ⟨more, same⟩ := ih (c.move m)
      refine ⟨first ++ more, ?_⟩
      rw [acts_append, ← acted, ← same]
      rfl

end Chronicle

/-- No timer has been passed over, and those that have elapsed have done so at their own time. -/
structure OnTime (c : Chronicle) : Prop where
  sound : Sound c.stage c.log
  ahead : ∀ t ∈ c.stage.agenda.timers, c.stage.agenda.now ≤ t.due
  elapsed : ∀ t time, .fired t time ∈ c.log → .armed t time ∈ c.log ∧ time ≤ c.stage.agenda.now

namespace OnTime

variable {c : Chronicle} {time : Nat}

/-- Time may pass as far as the first timer that is running. -/
theorem wait (onTime : OnTime c) (running : ∀ t ∈ c.stage.agenda.timers, time ≤ t.due) :
    OnTime (c.act (.wait time)) where
  sound := onTime.sound.act (.wait time)
  ahead := fun t mem => Nat.max_le.2 ⟨onTime.ahead t mem, running t mem⟩
  elapsed := by
    show ∀ t time', .fired t time' ∈ c.log ++ [] → .armed t time' ∈ c.log ++ [] ∧
      time' ≤ max c.stage.agenda.now time
    rw [List.append_nil]
    intro t time' mem
    obtain ⟨armed, past⟩ := onTime.elapsed t time' mem
    exact ⟨armed, Nat.le_trans past (Nat.le_max_left _ _)⟩

/-- Everything else takes no time. -/
theorem act (onTime : OnTime c) {d : RetryDeed} (instant : ∀ time, d ≠ .wait time) :
    OnTime (c.act d) := by
  obtain ⟨now, timers⟩ := c.stage.deed_agenda instant
  refine ⟨onTime.sound.act d, ?_, ?_⟩
  · show ∀ t ∈ (c.stage.deed d).agenda.timers, (c.stage.deed d).agenda.now ≤ t.due
    rw [now]
    exact fun t mem => (timers t mem).elim (onTime.ahead t) id
  · show ∀ t time, .fired t time ∈ c.log ++ c.stage.events d →
      .armed t time ∈ c.log ++ c.stage.events d ∧ time ≤ (c.stage.deed d).agenda.now
    rw [now]
    intro t time mem
    rcases List.mem_append.1 mem with before | fires
    · obtain ⟨armed, past⟩ := onTime.elapsed t time before
      exact ⟨List.mem_append_left _ armed, past⟩
    · obtain ⟨-, rfl, ready⟩ := fired_mem_events.1 fires
      obtain ⟨due, running, reached⟩ := RetryStage.isDue_iff.1 ready
      -- The clock has not gone past the timer, so it has just reached it.
      obtain rfl : due = c.stage.agenda.now := Nat.le_antisymm reached (onTime.ahead _ running)
      exact ⟨List.mem_append_left _ ((onTime.sound.running t _).1 running).1, Nat.le_refl _⟩

/-- The timers that are due by a time elapse one after another. -/
theorem elapseAll (onTime : OnTime c) (future : c.stage.agenda.now ≤ time) {l : List (Timer Nat)}
    (sorted : l.Pairwise fun t u => t.due ≤ u.due) (distinct : (l.map Timer.task).Nodup)
    (all : ∀ t, t ∈ l ↔ t ∈ c.stage.agenda.timers ∧ t.due ≤ time) :
    let c' := c.acts (l.flatMap fun t => [.wait t.due, .elapse t.task])
    OnTime c' ∧ c'.stage.agenda.now ≤ time ∧ ∀ t ∈ c'.stage.agenda.timers, time < t.due := by
  induction l generalizing c with
  | nil =>
      refine ⟨onTime, future, fun t mem => Nat.lt_of_not_le fun reached => ?_⟩
      cases (all t).2 ⟨mem, reached⟩
  | cons t rest ih =>
      obtain ⟨earliest, sorted⟩ := List.pairwise_cons.1 sorted
      obtain ⟨other, distinct⟩ := List.nodup_cons.1 distinct
      obtain ⟨running, soon⟩ := (all t).1 List.mem_cons_self
      have first : ∀ u ∈ c.stage.agenda.timers, t.due ≤ u.due := by
        intro u mem
        by_cases reached : u.due ≤ time
        · rcases List.mem_cons.1 ((all u).2 ⟨mem, reached⟩) with rfl | later
          · exact Nat.le_refl _
          · exact earliest u later
        · exact Nat.le_trans soon (Nat.le_of_not_le reached)
      have waited : OnTime (c.act (.wait t.due)) := onTime.wait first
      have now : (c.stage.wait t.due).agenda.now = t.due :=
        Nat.max_eq_right (onTime.ahead t running)
      have due : (c.stage.wait t.due).isDue t.task = true :=
        RetryStage.isDue_iff.2 ⟨t.due, running, Nat.le_of_eq now.symm⟩
      have timers : ((c.stage.wait t.due).elapse t.task).agenda.timers
          = c.stage.agenda.timers.filter (·.task ≠ t.task) := by
        rw [elapse, if_pos due]
        rfl
      have now' : ((c.stage.wait t.due).elapse t.task).agenda.now = t.due := by
        rw [elapse, if_pos due]
        exact now
      refine ih (waited.act (d := .elapse t.task) nofun) (Nat.le_trans (Nat.le_of_eq now') soon) sorted
        distinct fun u => ?_
      show u ∈ rest ↔ u ∈ ((c.stage.wait t.due).elapse t.task).agenda.timers ∧ u.due ≤ time
      rw [timers, List.mem_filter, decide_eq_true_iff]
      constructor
      · intro mem
        obtain ⟨runs, reached⟩ := (all u).1 (List.mem_cons_of_mem t mem)
        exact ⟨⟨runs, fun same => other (same ▸ List.mem_map_of_mem mem)⟩, reached⟩
      · rintro ⟨⟨runs, different⟩, reached⟩
        rcases List.mem_cons.1 ((all u).2 ⟨runs, reached⟩) with rfl | mem
        · exact absurd rfl different
        · exact mem

/-- When time has passed on a stage, no timer is due that has not elapsed. -/
theorem passage (onTime : OnTime c) (future : c.stage.agenda.now ≤ time) :
    OnTime (c.acts (c.stage.passage time)) ∧
      ∀ t ∈ (c.acts (c.stage.passage time)).stage.agenda.timers,
        (c.acts (c.stage.passage time)).stage.agenda.now < t.due := by
  let due := c.stage.agenda.timers.filter (·.due ≤ time)
  have order : (c.stage.dueBy time).Perm due := List.mergeSort_perm _ _
  have sorted : (c.stage.dueBy time).Pairwise fun t u => t.due ≤ u.due := by
    have ordered : (due.mergeSort fun t u => decide (t.due ≤ u.due)).Pairwise _ :=
      List.pairwise_mergeSort (by simpa using fun a b c => Nat.le_trans)
        (by simpa using fun a b => Nat.le_total _ _) due
    exact ordered.imp of_decide_eq_true
  have distinct : ((c.stage.dueBy time).map Timer.task).Nodup := by
    rw [(order.map _).nodup_iff]
    exact (List.filter_sublist.map _).nodup onTime.sound.unique
  obtain ⟨after, past, rest⟩ := onTime.elapseAll future sorted distinct fun t => by
    rw [order.mem_iff, List.mem_filter, decide_eq_true_iff]
  rw [RetryStage.passage, Chronicle.acts_append]
  refine ⟨after.wait fun t mem => Nat.le_of_lt (rest t mem), fun t mem => ?_⟩
  exact Nat.max_lt.2 ⟨Nat.lt_of_le_of_lt past (rest t mem), rest t mem⟩

/-- No move of a stage passes a timer over. -/
theorem move (onTime : OnTime c) (m : RetryStep) : OnTime (c.move m) ∧
    ∀ t ∈ (c.move m).stage.agenda.timers, (c.move m).stage.agenda.now < t.due := by
  have acted : OnTime (c.acts (c.stage.deeds m)) := by
    cases m with
    | advance ms => exact (onTime.passage (Nat.le_add_right _ ms)).1
    | _ => exact onTime.act nofun
  exact acted.passage (Nat.le_refl _)

end OnTime

/-- Every timer elapses at its own time, unless its retry has lost the slot before. -/
structure Punctual (c : Chronicle) : Prop where
  elapses : ∀ t due, .armed t due ∈ c.log →
    (t ∈ fired c.log ↔ due ≤ c.stage.agenda.now ∧ ¬RevokedFirst c.log t)
  on_time : ∀ t time, .fired t time ∈ c.log → .armed t time ∈ c.log ∧ time ≤ c.stage.agenda.now

/-- A retry is armed once. -/
theorem Sound.due_unique {s : RetryStage} {log : List RetryEvent} (sound : Sound s log)
    {t due due' : Nat} (mem : .armed t due ∈ log) (mem' : .armed t due' ∈ log) : due = due' := by
  have distinct : (armed log).Nodup := by
    rw [sound.numbered]
    exact List.nodup_range'
  obtain ⟨before, later, split⟩ := List.append_of_mem mem
  rw [split] at distinct mem'
  rw [armed_append, List.nodup_append] at distinct
  obtain ⟨-, once, apart⟩ := distinct
  rcases List.mem_append.1 mem' with first | again
  · exact absurd rfl (apart t ((mem_armed_iff _ _).2 ⟨due', first⟩) t List.mem_cons_self)
  · rcases List.mem_cons.1 again with same | second
    · cases same
      rfl
    · exact absurd ((mem_armed_iff _ _).2 ⟨due', second⟩) (List.nodup_cons.1 once).1

/-- A stage on which no timer is due has passed over none. -/
theorem OnTime.punctual {c : Chronicle} (onTime : OnTime c)
    (ahead : ∀ t ∈ c.stage.agenda.timers, c.stage.agenda.now < t.due) : Punctual c where
  on_time := onTime.elapsed
  elapses := by
    intro t due armed
    constructor
    · intro mem
      obtain ⟨time, elapsed⟩ := (mem_fired_iff _ _).1 mem
      obtain ⟨armed', past⟩ := onTime.elapsed t time elapsed
      obtain rfl := onTime.sound.due_unique armed armed'
      exact ⟨past, fun first => onTime.sound.order t first mem⟩
    · rintro ⟨past, kept⟩
      refine Decidable.byContradiction fun unfired => ?_
      have running := (onTime.sound.running t due).2
        ⟨armed, unfired, fun revoked => kept ((revokedFirst_iff unfired).2 revoked)⟩
      exact absurd past (Nat.not_le_of_lt (ahead _ running))

/-- On a stage every timer elapses at its own time, unless its retry has lost the slot before. -/
theorem Chronicle.punctual (backoff : Backoff) (forcedDelay : Duration) (ms : List RetryStep) :
    Punctual ((fresh backoff forcedDelay).moves ms) := by
  let P (c : Chronicle) : Prop :=
    OnTime c ∧ ∀ t ∈ c.stage.agenda.timers, c.stage.agenda.now < t.due
  have start : P (fresh backoff forcedDelay) :=
    ⟨⟨sound_fresh backoff forcedDelay, nofun, nofun⟩, nofun⟩
  obtain ⟨onTime, ahead⟩ : P ((fresh backoff forcedDelay).moves ms) :=
    List.foldlRecOn ms Chronicle.move start fun c before m _ => before.1.move m
  exact onTime.punctual ahead

end LanguageBridge.Rehearsal
