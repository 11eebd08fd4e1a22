import LanguageBridge.Proofs.Client.Handshake
import LanguageBridge.Proofs.Client.Standing

/-!
# Failed attempts

A client counts how often it has failed in a row to keep a connection, and waits the longer before
the next attempt.  What an action means for that count can be told from the system before it
(`System.bearing`): the newest connection is refused, its handshake fails or its socket closes,
which is a failure; a session is installed or another endpoint set, and the count starts anew; or
neither.

## Main results

* `System.bears_act`: every action has on the count the effect that its bearing says.
* `System.tally_acts`: in every run the count is the number of failures since it last started anew,
  up to the greatest number that the counter can hold.
* `System.failures_are_counted` puts this together.  Each failure arms a retry after the delay that
  goes with the count before it, and nothing else counts: not a forced reconnect, not a connection
  somebody asks for, not the end of a pause, a health check or a request that fails, and not a
  connection that has been superseded.

## Why the bearing is told beforehand

If the bearing of an action were read off the count after it, the theorem would hold of any way of
counting.  So `System.bearing` looks at what the action is, at which phase the attempt is in that it
concerns, and at the reply that waits there, and never at the count.
-/

namespace LanguageBridge

theorem Retry.tally_scheduleBackoff (r : Retry) :
    r.scheduleBackoff.2.tally = (r.backoff, min (r.attempts + 1) Word32.greatest) := rfl

namespace Client

/-- What an action means for the count of failed attempts. -/
inductive Bearing where
  /-- The newest connection is refused, its handshake fails, or its socket closes. -/
  | failure
  /-- A session is installed, or another endpoint set. -/
  | renewal
  | neither
  deriving DecidableEq

namespace Bearing

/-- The failures since the count has started anew. -/
def streak (bearings : List Bearing) : Nat :=
  (bearings.reverse.takeWhile (· ≠ .renewal)).count .failure

/-- A count after one more action. -/
def count (n : Nat) : Bearing → Nat
  | failure => n + 1
  | renewal => 0
  | neither => n

/-- One more bearing changes the streak as it changes a count. -/
theorem streak_concat (bearings : List Bearing) (b : Bearing) :
    streak (bearings ++ [b]) = b.count (streak bearings) := by
  rw [streak, List.reverse_append, List.reverse_singleton, List.singleton_append,
    List.takeWhile_cons]
  cases b with
  | failure => exact List.count_cons_self
  | renewal => rfl
  | neither => exact List.count_cons_of_ne (by decide)

end Bearing

namespace System

open Bearing (streak)

variable {s t u : System}

/-- The count outlives the end of the client. -/
theorem tally_destroy (s : System) : s.destroy.tally = s.tally := by
  unfold destroy
  split
  · rfl
  · rw [tally, state_giveUp]
    refine (tally_of_standing (standing_stopChecks _)).trans ?_
    rw [tally, state_stopAttempt, state_cancelRetry]
    rfl

/-! ## What counts

The bearing of an action and what it comes to, operation by operation.  An attempt that nobody
wants any more has no bearing, whatever it reports. -/

/-- The outcome of a handshake whose attempt runs now, if its request is over. -/
def handshake? (s : System) (c id due : Nat) : Option (Except Failure Server.Capabilities) :=
  match (s.connection c).session.resume s.now id due with
  | (.waiting _ _, _) => none
  | (.over outcome, session) => some (session.finishHandshake (s.connection c).link outcome).1

/-- What the outcome of a handshake means for the count. -/
def handshakeBearing : Except Failure Server.Capabilities → Bearing
  | .ok _ => .renewal
  | .error _ => .failure

/-- What it means for the count that a wanted attempt runs. -/
def phaseBearing (s : System) : Phase → Bearing
  | .starting => .neither
  | .opening _ => .neither
  | .handshaking c id due => ((s.handshake? c id due).map handshakeBearing).getD .neither
  | .watching c => if (s.connection c).link.state = .closed then .failure else .neither

/-- What an action means for the count.  Only the newest attempt counts, and only while somebody
holds the client and it has not been destroyed; a client that has been destroyed ignores another
endpoint.  A connection whose server cannot be greeted, because its socket is not open or there is
no time, fails at once. -/
def bearing (s : System) : Action → Bearing
  | .setEndpoint _ => if s.state.destroyed then .neither else .renewal
  | .connectorFailed g => if (s.call? g).isSome && s.wanted g then .failure else .neither
  | .connectorOpened g state =>
    if (s.call? g).isSome && s.wanted g &&
      (state ≠ .opened || Duration.dueAt s.now s.state.options.handshakeTimeout ≤ s.now)
    then .failure else .neither
  | .run (.attempt g) =>
    match s.attempts.find? (·.generation = g) with
    | some a => if s.wanted g then s.phaseBearing a.phase else .neither
    | none => .neither
  | _ => .neither

/-- What an action of some bearing comes to: a failure counts, and arms a retry after the delay that
goes with the count before it. -/
def Bears (s t : System) : Bearing → Prop
  | .failure => t.state.retry = s.state.retry.scheduleBackoff.2 ∧
    Pause.mk (s.state.retry.issued + 1) (s.state.retry.backoff.delay s.state.retry.attempts) none
      ∈ t.pauses
  | .renewal => t.tally = (s.state.retry.backoff, 0)
  | .neither => t.tally = s.tally

theorem Bears.of_retry {b : Bearing} (bears : Bears t u b)
    (same : t.state.retry = s.state.retry) : Bears s u b := by
  cases b with
  | failure =>
      rw [Bears, ← same]
      exact bears
  | renewal => exact bears.trans (by rw [same])
  | neither => exact bears.trans (by rw [tally, same, ← tally])

/-- Whatever decides, nothing is counted. -/
theorem Bears.idle (same : t.tally = s.tally) {p : Prop} [Decidable p] :
    Bears s t (if p then .neither else .neither) := by
  rw [ite_self]
  exact same

theorem pauses_endAttempt (s : System) (g : Nat) : (s.endAttempt g).pauses = s.pauses := by
  unfold endAttempt
  split
  · rfl
  · rw [(Calm.leave _ _).rest]
    rfl

/-- The newest attempt of a client that has not been destroyed lost. -/
theorem bears_lost {g : Nat} (newest : s.state.generation = g)
    (lasting : s.state.destroyed = false) : Bears s (s.lost g) .failure := by
  let r := System.stopChecks { s with state := { s.state with current := none, socket := none } }
  have counted : r.state.retry = s.state.retry := by rw [state_stopChecks]
  have armed : s.lost g = (r.armRetry Retry.scheduleBackoff).disposeAny s.state.current := by
    have kept : r.state.destroyed = false := by rw [state_stopChecks]; exact lasting
    rw [lost, if_neg (not_not.2 newest)]
    show System.disposeAny (if r.state.destroyed = true then r else _) _ = _
    rw [kept, if_neg Bool.false_ne_true]
  have calm := Calm.disposeAny (r.armRetry Retry.scheduleBackoff) s.state.current
  refine ⟨?_, ?_⟩
  · rw [armed, calm.state, state_armRetry, counted]
  · rw [armed, calm.rest]
    refine List.mem_append_right _ (List.mem_singleton.2 ?_)
    have paused : r.stopPause.state = r.state := by
      unfold stopPause
      split <;> rfl
    rw [paused, counted]

/-- An attempt that is over has failed, if it is still wanted. -/
theorem bears_finishAttempt (s : System) (g : Nat) :
    Bears s (s.finishAttempt g) (if s.wanted g then .failure else .neither) := by
  unfold wanted
  by_cases alive : s.alive = true
  · have ended : s.finishAttempt g = (s.lost g).endAttempt g := by rw [finishAttempt, if_pos alive]
    by_cases newest : s.state.generation = g
    · cases destroyed : s.state.destroyed with
      | true =>
          rw [if_neg (by simp)]
          show (s.finishAttempt g).tally = s.tally
          rw [ended, tally, state_endAttempt, lost, if_neg (not_not.2 newest)]
          simp only [state_disposeAny, state_stopChecks, destroyed, if_true]
          rfl
      | false =>
          rw [if_pos (by simp [alive, newest])]
          obtain ⟨retry, paused⟩ := bears_lost newest destroyed
          exact ⟨by rw [ended, state_endAttempt, retry], by rwa [ended, pauses_endAttempt]⟩
    · rw [if_neg (by simp [newest])]
      show (s.finishAttempt g).tally = s.tally
      rw [ended, tally, state_endAttempt, lost_of_ne newest, ← tally]
  · rw [if_neg (by simp [alive])]
    show (s.finishAttempt g).tally = s.tally
    rw [finishAttempt, if_neg alive, tally, state_endAttempt, ← tally]

/-- An installation sets the count back. -/
theorem tally_install (s : System) (g c : Nat) :
    (s.install g c).tally = (s.state.retry.backoff, 0) := by
  show (System.stopChecks _).state.retry.tally = _
  rw [state_stopChecks]
  show s.cancelRetry.state.retry.reset.tally = _
  rw [state_cancelRetry]
  rfl

/-- Whether an attempt is wanted depends on who holds the client and on its state. -/
theorem wanted_of_front (front : t.front = s.front) (state : t.state = s.state) (g : Nat) :
    t.wanted g = s.wanted g := by
  rw [wanted, wanted, alive_of_front front, state]

/-- A handshake that is over has failed or its session is installed, if the attempt is still
wanted. -/
theorem bears_finishHandshake (s : System) (g c : Nat) (outcome : Outcome) :
    Bears s (s.finishHandshake g c outcome) (if s.wanted g then handshakeBearing
      ((s.connection c).session.finishHandshake (s.connection c).link outcome).1 else .neither) := by
  rcases finished : (s.connection c).session.finishHandshake (s.connection c).link outcome
    with ⟨result, session, link⟩
  let told := (s.disarm (.attempt g)).exchange c session link
  have state : told.state = s.state := state_exchange _ c session link
  have front : told.front = s.front := front_exchange _ c session link
  let closed := (told.dispose c).closeSocket c
  have left : Calm told closed := (Calm.dispose told c).trans (.closeSocket _ c)
  unfold finishHandshake
  simp only []
  rw [show (s.disarm (.attempt g)).connection c = s.connection c from rfl, finished]
  cases result with
  | ok capabilities =>
      simp only []
      rw [show (System.exchange _ c session link).wanted g = s.wanted g from
        wanted_of_front front state g]
      split
      · exact (tally_install told g c).trans (by rw [state])
      · exact (tally_of_state (state_endAttempt closed g)).trans
          (tally_of_state (left.state.trans state))
  | error e =>
      have same : closed.wanted g = s.wanted g :=
        wanted_of_front (left.front.trans front) (left.state.trans state) g
      exact same ▸ (bears_finishAttempt closed g).of_retry
        (congrArg State.retry (left.state.trans state))

/-- A server that has just been connected to is greeted, or cannot be: its socket is not open, or
there is no time. -/
theorem greet_fresh (languageId : String) (requestTimeout timeout : Duration) (state : SocketState)
    (now process : Nat) :
    (¬(state ≠ .opened ∨ Duration.dueAt now timeout ≤ now) ∧ ∃ id due session link,
      (Session.fresh languageId requestTimeout).greet (.fresh state) now timeout process
        = (.waiting id due, session, link)) ∨
    ((state ≠ .opened ∨ Duration.dueAt now timeout ≤ now) ∧ ∃ e session link,
      (Session.fresh languageId requestTimeout).greet (.fresh state) now timeout process
        = (.over (.error e), session, link)) := by
  cases state with
  | opened =>
      by_cases late : Duration.dueAt now timeout ≤ now
      · exact .inr ⟨.inr late, _, _, _, if_pos late⟩
      · exact .inl ⟨by simp [late], _, _, _, _, if_neg late⟩
  | connecting => exact .inr ⟨.inl nofun, _, _, _, rfl⟩
  | closing => exact .inr ⟨.inl nofun, _, _, _, rfl⟩
  | closed => exact .inr ⟨.inl nofun, _, _, _, rfl⟩

/-- A session started on a connection that has just been opened fails at once or has its server
greeted. -/
theorem bears_startSession {c : Nat} (within : c < s.connections.length) {state : SocketState}
    (link : (s.connection c).link = .fresh state) (g : Nat) :
    Bears s (s.startSession g c) (if s.wanted g &&
      (state ≠ .opened || Duration.dueAt s.now s.state.options.handshakeTimeout ≤ s.now)
      then .failure else .neither) := by
  obtain ⟨call, session, link', greeted, begun⟩ := startSession_eq s g c
  let told := (s.opening c).exchange c session link'
  have same : told.state = s.state := state_exchange _ c session link'
  have front : told.front = s.front := front_exchange _ c session link'
  have now : (s.opening c).now = s.now := by
    unfold opening System.wake System.now Agenda.wake
    split <;> rfl
  rw [connection_opening s within, now] at greeted
  replace greeted : (Session.fresh s.state.options.languageId
      s.state.options.requestTimeout).greet (s.connection c).link s.now
      s.state.options.handshakeTimeout 0 = (call, session, link') := greeted
  rw [link] at greeted
  rw [begun]
  rcases greet_fresh s.state.options.languageId s.state.options.requestTimeout
    s.state.options.handshakeTimeout state s.now 0
    with ⟨ready, id, due, session, link', waits⟩ | ⟨failed, e, session, link', fails⟩
  · rw [waits] at greeted
    cases greeted
    rw [if_neg (by simpa using fun _ => by simpa using ready)]
    exact tally_of_state same
  · rw [fails] at greeted
    cases greeted
    have bears := (bears_finishHandshake told g c (.error e)).of_retry (congrArg State.retry same)
    rw [wanted_of_front front same g] at bears
    rw [show (decide (state ≠ .opened) || decide (Duration.dueAt s.now _ ≤ s.now)) = true by
      simpa using failed, Bool.and_true]
    exact bears

/-- Every connection that an attempt works on is one that the connector was asked for. -/
def Within (s : System) : Prop :=
  ∀ a ∈ s.attempts, ∀ c, a.phase.connection? = some c → c < s.connections.length

/-- The call of a connector that comes back has the effect that its bearing says. -/
theorem bears_connectorOpened (within : s.Within) (g : Nat) (state : SocketState) :
    Bears s (s.connectorOpened g state) (s.bearing (.connectorOpened g state)) := by
  rw [bearing]
  unfold connectorOpened
  cases called : s.call? g with
  | none => exact rfl
  | some c =>
      obtain ⟨a, found, opening⟩ := call?_eq_some called
      have here : c < s.connections.length :=
        within a (List.mem_of_find?_eq_some found) c (by rw [opening]; rfl)
      let held := { s.update c fun k => k.opened state with
        state := { s.state with socket := some c } }
      have link : (held.connection c).link = .fresh state := by
        rw [show held.connection c = _ from connection_update s _ here]
        rfl
      simp only [Option.isSome_some, Bool.true_and]
      split
      · rename_i wanted
        have bears := bears_startSession (s := held)
          (Nat.lt_of_lt_of_eq here (length_update s c _).symm) link g
        rw [show held.wanted g = true from wanted] at bears
        rw [wanted]
        exact bears.of_retry rfl
      · rename_i unwanted
        rw [Bool.eq_false_iff.2 unwanted, Bool.false_and, if_neg Bool.false_ne_true]
        exact (tally_of_state (state_endAttempt _ g)).trans
          (tally_of_state (state_closeSocket (s.update c fun k => k.opened state) c))

/-- An attempt that runs has the effect that its bearing says. -/
theorem bears_runAttempt (within : s.Within) (g : Nat) :
    Bears s (s.runAttempt g) (s.bearing (.run (.attempt g))) := by
  rw [bearing]
  unfold runAttempt
  cases found : s.attempts.find? (·.generation = g) with
  | none => exact rfl
  | some a =>
      simp only []
      cases phase : a.phase with
      | starting => exact .idle rfl
      | opening c => exact .idle rfl
      | handshaking c id due =>
          have here : c < s.connections.length :=
            within a (List.mem_of_find?_eq_some found) c (by rw [phase]; rfl)
          rcases resumed : (s.connection c).session.resume s.now id due with ⟨call, session⟩
          simp only [phaseBearing, handshake?, resumed]
          cases call with
          | waiting id' due' => exact .idle rfl
          | «over» outcome =>
              have bears := bears_finishHandshake (s.update c fun k => { k with session }) g c outcome
              rw [connection_update s _ here] at bears
              exact bears.of_retry rfl
      | watching c =>
          simp only [phaseBearing]
          split
          · exact bears_finishAttempt s g
          · exact .idle rfl

/-- Every action comes to what it means. -/
theorem bears_act (within : s.Within) (a : Action) : Bears s (s.act a) (s.bearing a) := by
  cases a with
  | connect endpoint => exact tally_of_standing (standing_connect s endpoint)
  | setEndpoint endpoint =>
      rw [bearing, act]
      split
      · rename_i destroyed
        exact congrArg tally (setEndpoint_of_destroyed endpoint destroyed)
      · rename_i lasting
        rw [setEndpoint, if_neg lasting]
        refine (tally_of_standing (standing_connect _ endpoint)).trans
          ((tally_of_state (state_disposeAny _ _)).trans ?_)
        show s.cancelRetry.state.retry.reset.tally = _
        rw [state_cancelRetry]
        rfl
  | destroy => exact tally_destroy s
  | checkConnected => exact tally_of_standing (standing_isConnected s)
  | updateSettings settings => exact tally_of_standing (standing_updateSettings s settings)
  | setPreamble preamble => exact rfl
  | setSnippets snippets => exact rfl
  | setObserver observer => exact rfl
  | ask origin feature target text place => exact rfl
  | disown => exact tally_of_standing (standing_release { s with owned := false })
  | run job =>
      cases job with
      | attempt g => exact bears_runAttempt within g
      | reader c => exact tally_of_state (Talk.runReader s c).state
      | pause token => exact tally_of_standing (standing_runPause s token)
      | checks id => exact tally_of_standing (standing_runChecks s id)
      | request number => exact tally_of_standing (standing_runRequest s number)
      | peer c => exact rfl
      | parcel number => exact rfl
  | wait ms => exact rfl
  | connectorFailed g =>
      rw [bearing, act]
      unfold connectorFailed
      cases s.call? g with
      | none => exact rfl
      | some c => exact bears_finishAttempt s g
  | connectorOpened g state => exact bears_connectorOpened within g state
  | peerState c next =>
      obtain ⟨agenda, connections, moved, -⟩ := peerState_eq s c next
      show (s.peerState c next).tally = s.tally
      rw [moved]
      rfl
  | peerFeed c text => exact tally_of_state (Calm.peerFeed s c text).state
  | peerEndFeed c => exact rfl
  | peerGone c => exact tally_of_state (Calm.peerGone s c).state
  | peerTake c => exact rfl

/-! ## The count of a run

From one action to all of them, along the run. -/

/-- What the actions of a run mean for the count. -/
def bearings (s : System) : List Action → List Bearing
  | [] => []
  | a :: rest => s.bearing a :: (s.act a).bearings rest

/-- The bearings of a run are told action by action. -/
theorem bearings_concat (s : System) (actions : List Action) (a : Action) :
    s.bearings (actions ++ [a]) = s.bearings actions ++ [(s.acts actions).bearing a] := by
  induction actions generalizing s with
  | nil => rfl
  | cons b rest ih => exact congrArg (s.bearing b :: ·) (ih (s.act b))

/-- Whatever it means, an action counts as the bearing says. -/
theorem Bears.tally {b : Bearing} {n : Nat} (bears : Bears s t b)
    (count : s.state.retry.attempts = min n Word32.greatest) :
    t.tally = (s.state.retry.backoff, min (b.count n) Word32.greatest) := by
  cases b with
  | failure =>
      rw [System.tally, bears.1, Retry.tally_scheduleBackoff, count, Bearing.count]
      congr 1
      omega
  | renewal => exact bears
  | neither => exact Eq.trans bears (congrArg (Prod.mk _) count)

theorem tally_acts (options : Options) (actions : List Action) :
    ((System.fresh options).acts actions).tally = (options.backoff,
      min (streak ((System.fresh options).bearings actions)) Word32.greatest) := by
  induction actions using List.reverseRecOn with
  | nil => rfl
  | append_singleton actions a ih =>
      obtain ⟨backoff, count⟩ := Prod.mk.inj ih
      have bears := bears_act (recorded options actions).aligned.within a
      rw [acts_concat, bearings_concat, Bearing.streak_concat, ← backoff]
      exact bears.tally count

/-- Whatever fails was wanted, and nobody outside sees anything of it. -/
theorem of_failure {a : Action} (failure : s.bearing a = .failure) :
    s.alive = true ∧ (s.act a).front = s.front := by
  have held {g : Nat} (wanted : s.wanted g = true) : s.alive = true := by
    rw [System.wanted, Bool.and_eq_true, Bool.and_eq_true] at wanted
    exact wanted.1.1
  cases a with
  | connectorFailed g =>
      rw [bearing] at failure
      split at failure
      · rename_i fails
        exact ⟨held (Bool.and_eq_true _ _ ▸ fails).2, front_connectorFailed s g⟩
      · cases failure
  | connectorOpened g state =>
      rw [bearing] at failure
      split at failure
      · rename_i fails
        rw [Bool.and_eq_true, Bool.and_eq_true] at fails
        exact ⟨held fails.1.2, front_connectorOpened s g state⟩
      · cases failure
  | run job =>
      cases job with
      | attempt g =>
          rw [bearing] at failure
          split at failure
          · split at failure
            · rename_i wanted
              exact ⟨held wanted, front_runAttempt s g⟩
            · cases failure
          · cases failure
      | _ => cases failure
  | setEndpoint endpoint =>
      rw [bearing] at failure
      split at failure <;> cases failure
  | _ => cases failure

/-- What is superseded means nothing. -/
theorem bearing_of_unwanted {g : Nat} (unwanted : s.wanted g = false) :
    s.bearing (.connectorFailed g) = .neither ∧
      (∀ state, s.bearing (.connectorOpened g state) = .neither) ∧
      s.bearing (.run (.attempt g)) = .neither := by
  refine ⟨?_, fun state => ?_, ?_⟩
  · rw [bearing, unwanted, Bool.and_false, if_neg Bool.false_ne_true]
  · rw [bearing, unwanted, Bool.and_false, Bool.false_and, if_neg Bool.false_ne_true]
  · rw [bearing]
    split
    · rw [unwanted, if_neg Bool.false_ne_true]
    · rfl

/-- What a client counts in a run, and what it does not. -/
structure FailuresCounted (options : Options) (actions : List Action) (s : System) : Prop where
  /-- The count is the number of failures since the client was made, a session was installed or
  another endpoint was set, up to the greatest word. -/
  count : s.state.retry.attempts
    = min (streak ((System.fresh options).bearings actions)) Word32.greatest
  /-- Each failure arms the only retry that is pending then, after the delay that goes with the
  count before it. -/
  arms : ∀ a, s.bearing a = .failure →
    (s.act a).state.retry.pending = some (s.state.retry.issued + 1) ∧
    (s.act a).pauses
      = [⟨s.state.retry.issued + 1, options.backoff.delay s.state.retry.attempts, none⟩]
  /-- Whatever is no failure and does not start the count anew leaves it as it is. -/
  idle : ∀ a, s.bearing a = .neither → (s.act a).state.retry.attempts = s.state.retry.attempts
  forced : s.reconnectSoon.state.retry.attempts = s.state.retry.attempts
  connected : ∀ endpoint, (s.connect endpoint).state.retry.attempts = s.state.retry.attempts
  /-- A pause that is over. -/
  fired : ∀ token, (s.endPause token).state.retry.attempts = s.state.retry.attempts ∧
    s.bearing (.run (.pause token)) = .neither
  checked : ∀ id, (s.runChecks id).state.retry.attempts = s.state.retry.attempts ∧
    s.bearing (.run (.checks id)) = .neither
  /-- A request that fails, for whatever reason. -/
  failed : (∀ c e, (s.requestFailed c e).state.retry.attempts = s.state.retry.attempts) ∧
    ∀ number, s.bearing (.run (.request number)) = .neither
  /-- Whatever becomes of a connection that is not the newest one. -/
  superseded : ∀ g, g ≠ s.state.generation → s.lost g = s ∧
    s.bearing (.connectorFailed g) = .neither ∧
    (∀ state, s.bearing (.connectorOpened g state) = .neither) ∧
    s.bearing (.run (.attempt g)) = .neither

/-- In every run a client counts its failures in a row, and the delays before it tries again go by
that count. -/
theorem failures_are_counted (options : Options) (actions : List Action) :
    FailuresCounted options actions ((System.fresh options).acts actions) := by
  let s := (System.fresh options).acts actions
  have run : Reachable options s := Reachable.fresh.acts actions
  have within : s.Within := (recorded options actions).aligned.within
  obtain ⟨backoff, count⟩ := Prod.mk.inj (tally_acts options actions)
  have unchanged {t : System} (same : t.tally = s.tally) :
      t.state.retry.attempts = s.state.retry.attempts := congrArg Prod.snd same
  have stands {t : System} (same : t.standing = s.standing) :
      t.state.retry.attempts = s.state.retry.attempts := unchanged (tally_of_standing same)
  refine {
    count, arms := fun a failure => ?arms
    idle := fun a neither => ?idle
    forced := stands (standing_reconnectSoon s)
    connected := fun endpoint => stands (standing_connect s endpoint)
    fired := fun token => ⟨stands (standing_endPause s token), rfl⟩
    checked := fun id => ⟨stands (standing_runChecks s id), rfl⟩
    failed := ⟨fun c e => stands (standing_requestFailed s c e), fun _ => rfl⟩
    superseded := fun g older => ⟨lost_of_ne older.symm, bearing_of_unwanted ?superseded⟩ }
  case arms =>
    have bears := bears_act within a
    rw [failure] at bears
    obtain ⟨retry, paused⟩ := bears
    obtain ⟨alive, front⟩ := of_failure failure
    have pending : (s.act a).state.retry.pending = some (s.state.retry.issued + 1) := by
      rw [retry]
      rfl
    refine ⟨pending, ?_⟩
    -- The only pause is the one before the pending retry.
    rcases (run.act a).working_or_quiet ((alive_of_front front).trans alive) with working | quiet
    · have tokens := working.pauses
      rw [pending, Option.toList_some] at tokens
      obtain ⟨p, single, -⟩ := List.map_eq_singleton_iff.1 tokens
      rw [single, List.mem_singleton] at paused
      rw [single, ← paused, ← backoff]
    · cases quiet.pending.symm.trans pending
  case idle =>
    have bears := bears_act within a
    rw [neither] at bears
    exact unchanged bears
  case superseded =>
    simp [System.wanted, older.symm]

/-- A client whose connector refuses two connections, and whose third one carries a session. -/
def refusedTwice : List Action :=
  [.connect "one", .run (.attempt 1), .connectorFailed 1, .run (.pause 1), .wait 1000,
    .run (.pause 1), .run (.attempt 2), .connectorFailed 2, .connect "one", .run (.attempt 3),
    .connectorOpened 3 .opened, .peerFeed 2 "\x7b\"id\":1\x7d", .run (.reader 2),
    .run (.attempt 3)]

example : ((System.fresh .standard).bearings refusedTwice).filter (· ≠ .neither)
    = [.failure, .failure, .renewal] := by
  decide +kernel

end System
end Client
end LanguageBridge
