import LanguageBridge.Proofs.Client.Abandoned
import LanguageBridge.Proofs.Client.Supersession
import LanguageBridge.Proofs.Retry.Punctual

/-!
# What a retry of a client starts

A client has a slot for its pending retry, and one pause for each retry that it arms.  Whatever
happens, the slot goes to newer retries only: one that has lost it never gets it back
(`System.later_act`).  A connection is started for a retry when its pause is over and it still has
the slot, which it loses by that, so no retry ever starts two (`startedBy_cases`), and one that has
lost the slot in another way has started none and will start none (`startedBy_of_revoked`).

`retries_act_once` puts this together with what is known of a slot and its timers by themselves.

## Two relations between slots

* `Retry.Worked` says how a client has got from one slot to another: by cancelling, resetting, and
  arming in one of the two ways.  It is what each function of the client is shown to do, in
  `worked_…`, and by `Step.worked` what each step does, except for one: the end of a pause claims
  the slot.
* `Retry.Later` says what that means for tokens.  Both a step by `Worked` and a claim lead to later
  slots, so `Later` holds along every run.

## Counting the connections of a retry

`startedIn token` counts what one action starts for a token, which is read off the generation: only
the pause of that token, run with the slot in hand, raises it.  `startedBy` adds up over a run.  The
bound by one is an induction with two cases, the token pending or lost, and `startedBy_of_lost` is
the second one.
-/

namespace LanguageBridge

namespace Retry

/-- What may become of a slot: the pending retry keeps it or loses it, and newer ones get it. -/
structure Later (r r' : Retry) : Prop where
  issued : r.issued ≤ r'.issued
  /-- Whoever has the slot had it before, or is the newest retry. -/
  pending : ∀ t, r'.pending = some t →
    r.pending = some t ∧ r'.issued = r.issued ∨ r.issued < t ∧ t = r'.issued

namespace Later

variable {r r' r'' : Retry}

theorem refl (r : Retry) : Later r r := ⟨Nat.le_refl _, fun _ own => .inl ⟨own, rfl⟩⟩

/-- A retry that was passed over in one stretch is not taken up in the next. -/
theorem trans (first : Later r r') (second : Later r' r'') : Later r r'' where
  issued := Nat.le_trans first.issued second.issued
  pending := by
    intro t own
    rcases second.pending t own with ⟨before, same⟩ | ⟨new, newest⟩
    · rcases first.pending t before with ⟨kept, same'⟩ | ⟨new, newest⟩
      · exact .inl ⟨kept, same.trans same'⟩
      · exact .inr ⟨new, newest.trans same.symm⟩
    · exact .inr ⟨Nat.lt_of_le_of_lt first.issued new, newest⟩

theorem cancel (r : Retry) : Later r r.cancel := ⟨Nat.le_refl _, nofun⟩

/-- The count of failures has nothing to do with who holds the slot. -/
theorem reset (r : Retry) : Later r r.reset := ⟨Nat.le_refl _, fun _ own => .inl ⟨own, rfl⟩⟩

/-- Whichever way a retry is armed, it is the newest one and gets the slot. -/
theorem arms {how : Retry → Armed × Retry} (arms : Rehearsal.Arms how) (r : Retry) :
    Later r (how r).2 where
  issued := by
    rw [arms.issued]
    exact Nat.le_succ _
  pending := by
    rw [arms.pending, arms.issued]
    rintro t ⟨⟩
    exact .inr ⟨Nat.lt_succ_self _, rfl⟩

/-- A retry that was armed and has lost the slot does not get it back. -/
theorem lost (later : Later r r') {t : Nat} (known : t ≤ r.issued) (stale : r.pending ≠ some t) :
    t ≤ r'.issued ∧ r'.pending ≠ some t := by
  refine ⟨Nat.le_trans known later.issued, fun own => ?_⟩
  rcases later.pending t own with ⟨before, -⟩ | ⟨new, -⟩
  · exact stale before
  · exact absurd known (Nat.not_le_of_lt new)

/-- If the pending retry was the newest one, it still is. -/
theorem newest (later : Later r r') (newest : ∀ t, r.pending = some t → t = r.issued) :
    ∀ t, r'.pending = some t → t = r'.issued := by
  intro t own
  rcases later.pending t own with ⟨before, same⟩ | ⟨-, new⟩
  · exact (newest t before).trans same.symm
  · exact new

end Later

/-- A slot that has come from another by being used: whatever a client does with its slot. -/
inductive Worked : Retry → Retry → Prop
  | refl (r : Retry) : Worked r r
  | cancel (r : Retry) : Worked r r.cancel
  | reset (r : Retry) : Worked r r.reset
  | backoff (r : Retry) : Worked r r.scheduleBackoff.2
  | forced (r : Retry) : Worked r r.scheduleForced.2
  | trans {r r' r'' : Retry} (first : Worked r r') (second : Worked r' r'') : Worked r r''

namespace Worked

variable {r r' : Retry}

theorem of_eq (same : r' = r) : Worked r r' := same ▸ refl r

/-- **Working with a slot makes it later.**  One case for each way to work with it. -/
theorem later (worked : Worked r r') : Later r r' := by
  induction worked with
  | refl r => exact .refl r
  | cancel r => exact .cancel r
  | reset r => exact .reset r
  | backoff r => exact .arms Rehearsal.arms_backoff r
  | forced r => exact .arms Rehearsal.arms_forced r
  | trans _ _ first second => exact first.trans second

/-- The delays are those that the slot was made with. -/
theorem terms (worked : Worked r r') :
    r'.backoff = r.backoff ∧ r'.forcedDelay = r.forcedDelay := by
  induction worked with
  | refl r => exact ⟨rfl, rfl⟩
  | cancel r => exact ⟨rfl, rfl⟩
  | reset r => exact ⟨rfl, rfl⟩
  | backoff r => exact ⟨rfl, rfl⟩
  | forced r => exact ⟨rfl, rfl⟩
  | trans _ _ first second => exact ⟨second.1.trans first.1, second.2.trans first.2⟩

end Worked
end Retry

namespace Client.System

open Rehearsal (Chronicle OneLive Orderly Punctual RetryDeed RetryStage RetryStep)

variable {s t : System} {token : Nat}

/-! ## What operations do to the state of a client

The slot is a part of the state, and many operations change the state elsewhere.  These equations
say which fields an operation writes, so that the slot can be read off them. -/

/-- A retry is cancelled in the slot; its pause is no part of the state. -/
theorem state_cancelRetry (s : System) :
    s.cancelRetry.state = { s.state with retry := s.state.retry.cancel } := by
  unfold cancelRetry stopPause
  split <;> rfl

/-- Health checks are stopped in the state, whether any were running or not. -/
theorem state_stopChecks (s : System) : s.stopChecks.state = { s.state with checks := none } := by
  unfold stopChecks
  split
  · rename_i idle
    rw [← idle]
  · rfl

theorem state_stopAttempt (s : System) : s.stopAttempt.state = { s.state with task := none } := by
  unfold stopAttempt
  split
  · rename_i idle
    rw [← idle]
  · rfl

/-- What was in use is given up in the state; sessions and sockets are elsewhere. -/
theorem state_giveUp (s : System) :
    s.giveUp.state = { s.state with current := none, socket := none } := by
  rw [giveUp, state_closeAny, state_disposeAny]

theorem state_armRetry (s : System) (how : Retry → Retry.Armed × Retry) :
    (s.armRetry how).state = { s.state with retry := (how s.state.retry).2 } := by
  unfold armRetry stopPause
  split <;> rfl

/-- All that connecting does to the state of a client that has not been destroyed. -/
theorem state_connect (lasting : s.state.destroyed = false) (endpoint : String) :
    (s.connect endpoint).state = { s.state with
      generation := s.state.generation + 1, endpoint := some endpoint, socket := none
      current := none, retry := s.state.retry.cancel, checks := none
      task := some (s.state.generation + 1) } := by
  rw [connect, if_neg (Bool.eq_false_iff.1 lasting), startAttempt, state_wake, state_giveUp,
    state_stopChecks, state_stopAttempt, state_cancelRetry]

/-! ## What operations do to the slot

One lemma for each function of the client.  Each of them says that the function has `Worked` with
the slot, and its proof follows the body of the function, one use of the slot after another. -/

/-- A forced reconnect works with the slot, if it does anything. -/
theorem worked_reconnectSoon (s : System) :
    s.state.retry.Worked s.reconnectSoon.state.retry := by
  unfold reconnectSoon
  split
  · exact .refl _
  · rw [state_armRetry]
    exact .forced _

theorem worked_lost (s : System) (generation : Nat) :
    s.state.retry.Worked (s.lost generation).state.retry := by
  unfold lost
  split
  · exact .refl _
  · simp only [state_disposeAny]
    split
    · exact .of_eq (by rw [state_stopChecks])
    · rw [state_armRetry, state_stopChecks]
      exact .backoff _

/-- A client connects, and no retry is pending any more, unless it has been destroyed. -/
theorem connect_cases (s : System) (endpoint : String) :
    s.connect endpoint = s ∨ (s.connect endpoint).state.retry = s.state.retry.cancel ∧
      (s.connect endpoint).state.generation = s.state.generation + 1 := by
  cases destroyed : s.state.destroyed with
  | true => exact .inl (connect_of_destroyed endpoint destroyed)
  | false =>
      rw [state_connect destroyed]
      exact .inr ⟨rfl, rfl⟩

theorem worked_connect (s : System) (endpoint : String) :
    s.state.retry.Worked (s.connect endpoint).state.retry := by
  rcases connect_cases s endpoint with same | ⟨retry, -⟩
  · rw [same]
    exact .refl _
  · rw [retry]
    exact .cancel _

theorem worked_setEndpoint (s : System) (endpoint : String) :
    s.state.retry.Worked (s.setEndpoint endpoint).state.retry := by
  unfold setEndpoint
  split
  · exact .refl _
  · refine Retry.Worked.trans ?_ (worked_connect _ endpoint)
    rw [state_disposeAny]
    show s.state.retry.Worked s.cancelRetry.state.retry.reset
    rw [state_cancelRetry]
    exact (Retry.Worked.cancel _).trans (.reset _)

theorem worked_destroy (s : System) : s.state.retry.Worked s.destroy.state.retry := by
  unfold destroy
  split
  · exact .refl _
  · rw [state_giveUp]
    show s.state.retry.Worked (System.stopChecks _).state.retry
    rw [state_stopChecks, state_stopAttempt, state_cancelRetry]
    exact .cancel _

/-- A client that is let go cancels its pending retry as well. -/
theorem worked_release (s : System) : s.state.retry.Worked s.release.state.retry := by
  unfold release
  split
  · exact .refl _
  · show s.state.retry.Worked (System.stopChecks _).state.retry
    rw [state_stopChecks, state_cancelRetry]
    exact .cancel _

/-- Recovery works with the slot if the session was in use or was the last one installed. -/
theorem worked_recover (s : System) (c : Nat) :
    s.state.retry.Worked (s.recover c).state.retry := by
  unfold recover
  split
  · split
    · refine Retry.Worked.trans ?_ (worked_reconnectSoon _)
      rw [state_dispose]
      exact .refl _
    · exact .refl _
  · split
    · exact worked_reconnectSoon s
    · exact .refl _

/-- An attempt that is over works with the slot if its generation is still the newest. -/
theorem worked_finishAttempt (s : System) (generation : Nat) :
    s.state.retry.Worked (s.finishAttempt generation).state.retry := by
  unfold finishAttempt
  rw [state_endAttempt]
  split
  · exact worked_lost s generation
  · exact .refl _

/-- An installation cancels the pending retry and resets the count. -/
theorem worked_install (s : System) (generation c : Nat) :
    s.state.retry.Worked (s.install generation c).state.retry := by
  show s.state.retry.Worked (System.stopChecks _).state.retry
  rw [state_stopChecks]
  show s.state.retry.Worked s.cancelRetry.state.retry.reset
  rw [state_cancelRetry]
  exact (Retry.Worked.cancel _).trans (.reset _)

/-- A handshake works with the slot however it ends. -/
theorem worked_finishHandshake (s : System) (generation c : Nat) (outcome : Outcome) :
    s.state.retry.Worked (s.finishHandshake generation c outcome).state.retry := by
  rcases finished : (s.connection c).session.finishHandshake (s.connection c).link outcome
    with ⟨result, session, link⟩
  let told := (s.disarm (.attempt generation)).exchange c session link
  have same : told.state = s.state := state_exchange _ c session link
  have closed : ((told.dispose c).closeSocket c).state = s.state := by
    rw [state_closeSocket, state_dispose, same]
  unfold finishHandshake
  simp only []
  rw [show (s.disarm (.attempt generation)).connection c = s.connection c from rfl, finished]
  cases result with
  | ok capabilities =>
      simp only []
      split
      · exact same ▸ worked_install told generation c
      · rw [state_endAttempt]
        exact .of_eq (congrArg State.retry closed)
  | error e =>
      exact closed ▸ worked_finishAttempt ((told.dispose c).closeSocket c) generation

/-- A session that starts does not reach the slot, unless its handshake is over at once. -/
theorem worked_startSession (s : System) (generation c : Nat) :
    s.state.retry.Worked (s.startSession generation c).state.retry := by
  obtain ⟨call, session, link, -, begun⟩ := startSession_eq s generation c
  have same : ((s.opening c).exchange c session link).state = s.state := state_exchange _ c _ _
  rw [begun]
  cases call with
  | «over» outcome => exact same ▸ worked_finishHandshake _ generation c outcome
  | waiting id due => exact .of_eq (congrArg State.retry same)

theorem worked_runAttempt (s : System) (generation : Nat) :
    s.state.retry.Worked (s.runAttempt generation).state.retry := by
  unfold runAttempt
  split
  · exact .refl _
  · split
    · exact .refl _
    · exact .refl _
    · simp only []
      unfold greeted
      split
      · exact worked_finishHandshake (System.update s _ _) generation _ _
      · exact .refl _
    · split
      · exact worked_finishAttempt s generation
      · exact .refl _

/-- A connector that fails ends its attempt, which works with the slot. -/
theorem worked_connectorFailed (s : System) (generation : Nat) :
    s.state.retry.Worked (s.connectorFailed generation).state.retry := by
  unfold connectorFailed
  split
  · exact .refl _
  · exact worked_finishAttempt s generation

/-- A connection that is opened leads to a session, or back to nothing. -/
theorem worked_connectorOpened (s : System) (generation : Nat) (state : SocketState) :
    s.state.retry.Worked (s.connectorOpened generation state).state.retry := by
  unfold connectorOpened
  split
  · exact .refl _
  · rename_i c _
    simp only []
    split
    · exact worked_startSession { s.update c fun k => k.opened state with
        state := { s.state with socket := some c } } generation c
    · rw [state_endAttempt]
      exact .of_eq (congrArg State.retry (state_closeSocket _ _))

/-- A pause that is over leaves the client in its generation, or its retry had the slot and a
connection is started for it. -/
theorem endPause_cases (s : System) (token : Nat) :
    s.state.retry.Worked (s.endPause token).state.retry ∧
      ((s.endPause token).state.generation = s.state.generation ∨
        s.state.retry.pending = some token ∧ (s.endPause token).state.retry.pending = none ∧
          (s.endPause token).state.generation = s.state.generation + 1) := by
  by_cases pending : s.state.retry.pending = some token
  · have claimed : s.state.retry.claim token = (true, s.state.retry.cancel) := by
      rw [Retry.claim, if_pos pending]
      rfl
    unfold endPause
    simp only [claimed]
    split
    · exact ⟨.refl _, .inl rfl⟩
    · split
      · exact ⟨.cancel _, .inl rfl⟩
      · rename_i endpoint _
        rcases connect_cases { s with
          pauses := s.pauses.filter (·.token ≠ token)
          state := { s.state with retry := s.state.retry.cancel } } endpoint with
          same | ⟨retry, generation⟩
        · rw [same]
          exact ⟨.cancel _, .inl rfl⟩
        · rw [retry]
          exact ⟨(Retry.Worked.cancel _).trans (.cancel _), .inr ⟨pending, rfl, generation⟩⟩
  · rw [endPause_of_ne pending]
    exact ⟨.refl _, .inl rfl⟩

/-- Every step uses the slot, or leaves it alone. -/
theorem Step.worked (step : Step s t) : s.state.retry.Worked t.state.retry := by
  have of_state (same : t.state = s.state) : s.state.retry.Worked t.state.retry :=
    .of_eq (congrArg State.retry same)
  cases step with
  | calm calm => exact of_state calm.state
  | read c => exact of_state (Talk.runReader s c).state
  | send c m link current sent => exact of_state (state_exchange s c _ link)
  | call c method params answer session link current called =>
      exact of_state (state_exchange s c session link)
  | configure preamble snippets observer => exact .refl _
  | face rest kept => exact of_state (by rw [rest])
  | disown => exact .refl _
  | release => exact worked_release s
  | recover c => exact worked_recover s c
  | nudge c current usable shut => exact worked_reconnectSoon s
  | connect endpoint => exact worked_connect s endpoint
  | setEndpoint endpoint => exact worked_setEndpoint s endpoint
  | destroy => exact worked_destroy s
  | check id monitor => exact .refl _
  | endChecks id finished => exact .refl _
  | pause token due => exact .refl _
  | endPause token => exact (endPause_cases s token).1
  | attempt generation => exact worked_runAttempt s generation
  | connectorFailed generation => exact worked_connectorFailed s generation
  | connectorOpened generation state => exact worked_connectorOpened s generation state

theorem Steps.worked (steps : Steps s t) : s.state.retry.Worked t.state.retry := by
  induction steps with
  | refl => exact .refl _
  | tail _ step ih => exact ih.trans step.worked

/-- **An action works with the slot**, up to the one claim at the end of a pause. -/
theorem worked_act (s : System) (a : Action) : s.state.retry.Worked (s.act a).state.retry := by
  rcases act_cases s a with steps | ⟨c, next, moved⟩
  · exact steps.worked
  · obtain ⟨agenda, connections, same, -⟩ := peerState_eq s c next
    rw [moved, same]
    exact .refl _

theorem worked_acts (s : System) (actions : List Action) :
    s.state.retry.Worked (s.acts actions).state.retry := by
  induction actions generalizing s with
  | nil => exact .refl _
  | cons a rest ih => exact (worked_act s a).trans (ih (s.act a))

/-- No action gives the slot to an older retry. -/
theorem later_act (s : System) (a : Action) : s.state.retry.Later (s.act a).state.retry :=
  (worked_act s a).later

theorem later_acts (s : System) (actions : List Action) :
    s.state.retry.Later (s.acts actions).state.retry :=
  (worked_acts s actions).later

/-! ## What the pause of a retry starts

Only here a slot is claimed.  A pause that is over looks whether its token is still the pending
one; if so it takes the slot and connects, and if not it does nothing. -/

/-- The connections that an action starts because the pause of a retry is over.  Each of them has a
generation of its own. -/
def startedIn (token : Nat) (s : System) : Action → Nat
  | .run (.pause t) =>
    if t = token then (s.act (.run (.pause t))).state.generation - s.state.generation else 0
  | _ => 0

/-- The connections that the actions of a run start because the pause of a retry is over. -/
def startedBy (token : Nat) (s : System) : List Action → Nat
  | [] => 0
  | a :: rest => startedIn token s a + startedBy token (s.act a) rest

theorem startedBy_append (token : Nat) (s : System) (before after : List Action) :
    startedBy token s (before ++ after)
      = startedBy token s before + startedBy token (s.acts before) after := by
  induction before generalizing s with
  | nil => exact (Nat.zero_add _).symm
  | cons a rest ih =>
      show startedIn token s a + startedBy token (s.act a) (rest ++ after) = _
      rw [ih, ← Nat.add_assoc]
      rfl

/-- A pause that runs leaves the client in its generation, or its retry had the slot and one
connection is started for it. -/
theorem runPause_cases (s : System) (token : Nat) :
    (s.runPause token).state.generation = s.state.generation ∨
      s.state.retry.pending = some token ∧ (s.runPause token).state.retry.pending = none ∧
        (s.runPause token).state.generation = s.state.generation + 1 := by
  unfold runPause
  split
  · exact .inl rfl
  · split
    · split
      · exact (endPause_cases s token).2
      · exact .inl rfl
    · simp only []
      split
      · exact (endPause_cases s token).2
      · exact .inl rfl

/-- An action starts no connection for a retry, or it is the pause of that retry, which had the slot
and loses it, and it starts one. -/
theorem startedIn_cases (token : Nat) (s : System) (a : Action) :
    startedIn token s a = 0 ∨
      a = .run (.pause token) ∧ s.state.retry.pending = some token ∧
        (s.act a).state.retry.pending ≠ some token ∧ startedIn token s a = 1 := by
  unfold startedIn
  split
  · rename_i t
    split
    · rename_i own
      rw [own]
      rcases runPause_cases s token with same | ⟨pending, vacant, more⟩
      · exact .inl (Nat.sub_eq_zero_of_le (Nat.le_of_eq same))
      · refine .inr ⟨rfl, pending, ?_, ?_⟩
        · exact fun still => nomatch vacant.symm.trans still
        · exact (congrArg (· - s.state.generation) more).trans (Nat.add_sub_cancel_left _ _)
    · exact .inl rfl
  · exact .inl rfl

/-- A retry that was armed and has lost the slot starts nothing any more. -/
theorem startedBy_of_lost (known : token ≤ s.state.retry.issued)
    (stale : s.state.retry.pending ≠ some token) (actions : List Action) :
    startedBy token s actions = 0 := by
  induction actions generalizing s with
  | nil => rfl
  | cons a rest ih =>
      obtain ⟨known', stale'⟩ := (later_act s a).lost known stale
      have now : startedIn token s a = 0 :=
        (startedIn_cases token s a).resolve_right fun started => stale started.2.1
      rw [startedBy, now, ih known' stale']

/-- A retry starts one connection at most, and none as long as it keeps the slot. -/
theorem startedBy_cases (newest : ∀ t, s.state.retry.pending = some t → t = s.state.retry.issued)
    (token : Nat) (actions : List Action) :
    startedBy token s actions = 0 ∨
      startedBy token s actions = 1 ∧ (s.acts actions).state.retry.pending ≠ some token := by
  induction actions generalizing s with
  | nil => exact .inl rfl
  | cons a rest ih =>
      have later := later_act s a
      rcases startedIn_cases token s a with none | ⟨-, pending, stale, one⟩
      · rw [startedBy, none, Nat.zero_add]
        exact ih (later.newest newest)
      · -- It has lost the slot, and so it starts nothing more.
        have known : token ≤ (s.act a).state.retry.issued :=
          Nat.le_trans (Nat.le_of_eq (newest token pending)) later.issued
        rw [startedBy, one, startedBy_of_lost known stale]
        exact .inr ⟨rfl, ((later_acts (s.act a) rest).lost known stale).2⟩

/-- A retry that has lost the slot otherwise than by the end of its own pause starts nothing in the
whole run. -/
theorem startedBy_of_revoked (newest : ∀ t, s.state.retry.pending = some t → t = s.state.retry.issued)
    {token : Nat} {before : List Action} {a : Action} {after : List Action}
    (pending : (s.acts before).state.retry.pending = some token)
    (stale : ((s.acts before).act a).state.retry.pending ≠ some token)
    (other : a ≠ .run (.pause token)) : startedBy token s (before ++ a :: after) = 0 := by
  have earlier : startedBy token s before = 0 :=
    (startedBy_cases newest token before).resolve_right fun started => started.2 pending
  have now : startedIn token (s.acts before) a = 0 :=
    (startedIn_cases token _ a).resolve_right fun started => other started.1
  have own : token = (s.acts before).state.retry.issued :=
    (later_acts s before).newest newest token pending
  have known : token ≤ ((s.acts before).act a).state.retry.issued :=
    Nat.le_trans (Nat.le_of_eq own) (later_act (s.acts before) a).issued
  rw [startedBy_append, earlier, startedBy, now, startedBy_of_lost known stale]

/-! ## All of it together

What is known of a slot by itself, with timers that run at any moment, and what is known of the
slot of a client are two halves: that a retry elapses at most once, and that what elapses starts
at most one connection. -/

/-- What the retries of a client do in a run. -/
structure StartsOnce (s : System) (actions : List Action) : Prop where
  /-- The pause of the pending retry goes on, and no other. -/
  pauses : (s.acts actions).alive = true →
    (s.acts actions).pauses.map Pause.token = (s.acts actions).state.retry.pending.toList
  /-- The pending retry is the one that was armed last. -/
  newest : ∀ t, (s.acts actions).state.retry.pending = some t →
    t = (s.acts actions).state.retry.issued
  once : ∀ t, startedBy t s actions ≤ 1
  /-- A retry that has lost the slot starts nothing more. -/
  spent : ∀ t ≤ (s.acts actions).state.retry.issued,
    (s.acts actions).state.retry.pending ≠ some t →
      ∀ more, startedBy t (s.acts actions) more = 0
  /-- One that has lost it otherwise than by the end of its own pause starts nothing at all. -/
  revoked : ∀ t before a after, actions = before ++ a :: after →
    (s.acts before).state.retry.pending = some t →
      ((s.acts before).act a).state.retry.pending ≠ some t → a ≠ .run (.pause t) →
        startedBy t s actions = 0
  /-- Not even if its pause, which has been aborted, is over all the same. -/
  expired : (s.acts actions).alive = true →
    ∀ t, (s.acts actions).state.retry.pending ≠ some t → Expired (s.acts actions) t

/-- In every run of a client each retry starts one connection at most. -/
theorem startsOnce (options : Options) (actions : List Action) :
    StartsOnce (.fresh options) actions := by
  have newest : ∀ t, (System.fresh options).state.retry.pending = some t →
      t = (System.fresh options).state.retry.issued := nofun
  have run : Reachable options ((System.fresh options).acts actions) := Reachable.fresh.acts actions
  exact {
    pauses := by
      intro alive
      rcases run.working_or_quiet alive with working | quiet
      · exact working.pauses
      · rw [quiet.pauses, quiet.pending]
        rfl
    newest := (later_acts _ actions).newest newest
    once := by
      intro t
      rcases startedBy_cases newest t actions with none | ⟨one, -⟩
      · exact none ▸ Nat.zero_le 1
      · exact Nat.le_of_eq one
    spent := fun t known stale more => startedBy_of_lost known stale more
    revoked := by
      rintro t before a after rfl pending stale other
      exact startedBy_of_revoked newest pending stale other
    expired := fun alive t stale => (passed_of_ne stale (run.working_or_quiet alive)).expired }

/-- At most one timer of a slot is ever live, and only that one can act, however the slot is used
and whenever its timers come to run; on a stage they do so at their own time; and each retry of a
client starts one connection at most, and none if it was cancelled or superseded. -/
theorem retries_act_once (backoff : Backoff) (forcedDelay : Duration) (deeds : List RetryDeed)
    (moves : List RetryStep) (options : Options) (actions : List Action) :
    Orderly ((Chronicle.fresh backoff forcedDelay).acts deeds) ∧
      ((∀ d ∈ deeds, d.Honest) → OneLive ((Chronicle.fresh backoff forcedDelay).acts deeds)) ∧
      ((Chronicle.fresh backoff forcedDelay).moves moves).stage
        = (RetryStage.fresh backoff forcedDelay).after moves ∧
      Orderly ((Chronicle.fresh backoff forcedDelay).moves moves) ∧
      Punctual ((Chronicle.fresh backoff forcedDelay).moves moves) ∧
      StartsOnce (.fresh options) actions := by
  obtain ⟨made, same⟩ := (Chronicle.fresh backoff forcedDelay).moves_eq_acts moves
  refine ⟨Chronicle.orderly backoff forcedDelay deeds, Chronicle.oneLive backoff forcedDelay,
    Chronicle.stage_moves _ moves, ?_, Chronicle.punctual backoff forcedDelay moves,
    startsOnce options actions⟩
  rw [same]
  exact Chronicle.orderly backoff forcedDelay made

/-- A retry that is superseded at the very instant at which its pause is over. -/
def overtaken : List RetryDeed :=
  [.backoff true, .wait 1000, .forced true, .elapse 1, .wait 1500, .elapse 2]

/-- The first retry is armed, superseded before its time, and the second one fires: a log in
full. -/
theorem overtaken_oneLive : (∀ d ∈ overtaken, d.Honest) ∧
    ((Chronicle.fresh Options.standard.backoff Options.standard.forcedDelay).acts overtaken).log
      = [.armed 1 1000, .revoked 1, .armed 2 1500, .fired 2 1500, .claimed 2] ∧
    OneLive ((Chronicle.fresh Options.standard.backoff Options.standard.forcedDelay).acts
      overtaken) := by
  have honest : ∀ d ∈ overtaken, d.Honest := by simp [overtaken, RetryDeed.Honest]
  obtain ⟨-, live, -⟩ := retries_act_once Options.standard.backoff Options.standard.forcedDelay
    overtaken [] .standard []
  exact ⟨honest, by decide +kernel, live honest⟩

end Client.System
end LanguageBridge
