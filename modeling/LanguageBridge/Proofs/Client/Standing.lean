import LanguageBridge.Client.Run
import LanguageBridge.Proofs.Client.Retrying
import LanguageBridge.Proofs.Client.Talk

/-!
# What a client stands on

The options of a client, its preamble and snippets, whether it is destroyed and who observes its
signature help are its *configuration*.  The *tally* is how often it has failed in a row to keep a
connection, and the delays that follow from that.  Both together are its *standing*.

Nothing that a client does about retries, health checks and requests touches its standing.
Connection attempts count, but do not touch the configuration either: it changes only where somebody
outside says so (`System.configuration_act`).

## Main results

* `standing_…`: the functions of the client that leave both parts alone.  Retries are armed without
  counting here: `reconnectSoon` is the forced one.
* `configuration_…`: connection attempts, which may count a failure or set the count back and so
  keep only the first part.
* `System.configuration_act`: the configuration after an action is `System.configured` of it, a
  function of the action alone that only the owner's own calls make differ from before.
* `Reachable.terms`: on a run the options are the ones that the client was made with, and so are the
  delays of its retries.
* `HostObserves`: a client whose signature help is shown to the host keeps to that, unless it is
  destroyed or given another observer.
-/

namespace LanguageBridge

/-- What is counted, and the delays that follow from the count. -/
def Retry.tally (r : Retry) : Backoff × Nat := (r.backoff, r.attempts)

namespace Client

/-- What somebody outside decides about a client. -/
structure Configuration where
  options : Options
  destroyed : Bool
  preamble : Option String
  snippets : List Editor.Snippet
  observer : Option Observer

/-- What a client stands on. -/
structure Standing where
  configuration : Configuration
  tally : Backoff × Nat

namespace System

variable {s t : System}

/-- The configuration of a client. -/
def configuration (s : System) : Configuration :=
  ⟨s.state.options, s.state.destroyed, s.state.preamble, s.state.snippets, s.state.observer⟩

/-- What is counted of a client. -/
def tally (s : System) : Backoff × Nat := s.state.retry.tally

/-- The standing of a client. -/
def standing (s : System) : Standing := ⟨s.configuration, s.tally⟩

/-- The standing is read off the state of the client alone. -/
theorem standing_of_state (same : t.state = s.state) : t.standing = s.standing := by
  rw [standing, configuration, tally, same]
  rfl

/-- The configuration is the first part of the standing. -/
theorem configuration_of_standing (same : t.standing = s.standing) :
    t.configuration = s.configuration := congrArg Standing.configuration same

theorem tally_of_standing (same : t.standing = s.standing) : t.tally = s.tally :=
  congrArg Standing.tally same

theorem configuration_of_state (same : t.state = s.state) : t.configuration = s.configuration :=
  configuration_of_standing (standing_of_state same)

theorem tally_of_state (same : t.state = s.state) : t.tally = s.tally :=
  tally_of_standing (standing_of_state same)

/-! ## Retrying and connecting

Arming a retry takes the delay that goes with the count and leaves the count alone; it is the end
of an attempt that counts.  Connecting does not set the count back either, or a client whose
server refuses every connection would never wait longer. -/

/-- A cancelled retry gives back its slot.  What it has counted stays counted. -/
@[simp] theorem standing_cancelRetry (s : System) :
    s.cancelRetry.standing = s.standing := by
  rw [standing, configuration, tally, state_cancelRetry]
  rfl

@[simp] theorem standing_stopChecks (s : System) :
    s.stopChecks.standing = s.standing := by
  rw [standing, configuration, tally, state_stopChecks]
  rfl

/-- A forced retry does not count as a failure, whatever becomes of it. -/
@[simp] theorem standing_reconnectSoon (s : System) :
    s.reconnectSoon.standing = s.standing := by
  unfold reconnectSoon
  split
  · rfl
  · rw [standing, configuration, tally, state_armRetry]
    rfl

/-- A new connection as such does not set the count back; that is for its installation to do. -/
@[simp] theorem standing_connect (s : System) (endpoint : String) :
    (s.connect endpoint).standing = s.standing := by
  cases lasting : s.state.destroyed with
  | true => rw [connect_of_destroyed endpoint lasting]
  | false =>
      rw [standing, configuration, tally, state_connect lasting]
      rfl

/-- A client that is let go keeps its configuration, though nothing reads it any more. -/
@[simp] theorem standing_release (s : System) : s.release.standing = s.standing := by
  unfold release
  split
  · rfl
  · exact (standing_stopChecks _).trans (standing_cancelRetry s)

/-- Recovery from a stale session arms the forced retry and not the counting one. -/
@[simp] theorem standing_recover (s : System) (c : Nat) :
    (s.recover c).standing = s.standing := by
  unfold recover
  split
  · split
    · refine (standing_reconnectSoon _).trans ?_
      exact standing_of_state (s := { s with state := { s.state with current := none } })
        (state_dispose _ c)
    · rfl
  · split
    · exact standing_reconnectSoon s
    · rfl

/-- A retry that fires has been counted when it was armed. -/
@[simp] theorem standing_endPause (s : System) (token : Nat) :
    (s.endPause token).standing = s.standing := by
  -- A pause whose retry has been superseded changes nothing.
  by_cases pending : s.state.retry.pending = some token
  · have claimed : s.state.retry.claim token = (true, s.state.retry.cancel) := by
      rw [Retry.claim, if_pos pending]
      rfl
    unfold endPause
    simp only [claimed]
    split
    · rfl
    · split
      · rfl
      · exact standing_connect _ _
  · rw [endPause_of_ne pending]
    rfl

@[simp] theorem standing_runPause (s : System) (token : Nat) :
    (s.runPause token).standing = s.standing := by
  unfold runPause
  split
  · rfl
  · split
    · split
      · exact standing_endPause s token
      · rfl
    · simp only []
      split
      · exact standing_endPause s token
      · rfl

/-! ## Validity checks

A stale session leads to the forced retry, which does not count, since the connection was good
once. -/

/-- A failed request is no failed connection attempt. -/
@[simp] theorem standing_requestFailed (s : System) (c : Nat) (e : Failure) :
    (s.requestFailed c e).standing = s.standing := by
  unfold requestFailed
  split
  · exact standing_recover s c
  · rfl

/-- A stale session that is dropped does not count as a failure. -/
theorem standing_validSession (s : System) :
    s.validSession.2.standing = s.standing := by
  rcases validSession_cases s with ⟨-, valid⟩ | ⟨c, -, -, valid⟩ | ⟨c, e, -, -, valid⟩
  · rw [valid]
  · rw [valid]
  · rw [valid]
    exact standing_recover s c

@[simp] theorem standing_isConnected (s : System) :
    s.isConnected.2.standing = s.standing := by
  have same := standing_validSession s
  unfold isConnected
  split <;> rename_i valid <;> rwa [valid] at same

/-- A health check may reconnect, with the forced retry. -/
@[simp] theorem standing_checkHealth (s : System) :
    s.checkHealth.standing = s.standing := by
  have same := standing_validSession s
  unfold checkHealth
  split
  · rename_i valid
    rwa [valid] at same
  · rename_i valid
    rw [valid] at same
    split
    · exact same
    · exact (standing_reconnectSoon _).trans same

/-- A series of checks goes on or ends without a trace in the standing. -/
@[simp] theorem standing_runChecks (s : System) (id : Nat) :
    (s.runChecks id).standing = s.standing := by
  unfold runChecks
  split
  · rfl
  · split
    · rfl
    · split
      · rfl
      · split
        · rfl
        · exact standing_checkHealth s

theorem standing_notify (s : System) (c : Nat) (m : Message) :
    (s.notify c m).2.standing = s.standing := by
  rcases notify_cases s c m with ⟨link, -, told⟩ | ⟨e, -, told⟩
  · rw [told]
    exact standing_of_state (state_exchange s c _ link)
  · rw [told]
    exact standing_requestFailed s c e

@[simp] theorem standing_updateSettings (s : System) (settings : Json) :
    (s.updateSettings settings).2.standing = s.standing := by
  have same := standing_validSession s
  unfold updateSettings
  split
  · rfl
  · split
    · rename_i valid
      rwa [valid] at same
    · rename_i valid
      rw [valid] at same
      exact (standing_notify _ _ _).trans same

/-! ## Requests

Requests of the editor may fail in many ways and none of them is a failed connection. -/

@[simp] theorem standing_finishRequest (s : System) (r : Request) (answer : Editor.Answer) :
    (s.finishRequest r answer).standing = s.standing := by
  refine (standing_release _).trans ?_
  unfold deliver
  split <;> rfl

/-- Whatever the outcome of a request, only recovery may follow from it. -/
@[simp] theorem standing_conclude (s : System) (r : Request) (c : Nat) (lines : UInt32)
    (outcome : Outcome) : (s.conclude r c lines outcome).2.standing = s.standing := by
  unfold conclude
  split
  · exact standing_requestFailed s c _
  · split
    · exact standing_requestFailed s c _
    · unfold observe
      split <;> rfl
    · rfl

@[simp] theorem standing_settleRequest (s : System) (r : Request) (c : Nat) (lines : UInt32)
    (outcome : Outcome) : (s.settleRequest r c lines outcome).standing = s.standing :=
  (standing_finishRequest _ r _).trans (standing_conclude s r c lines outcome)

/-- Sending a request moves its connection and its stage. -/
theorem standing_sendRequest (s : System) (r : Request) (c : Nat) (lines : UInt32) :
    (s.sendRequest r c lines).standing = s.standing := by
  unfold sendRequest
  simp only []
  split
  · exact (standing_settleRequest _ r c lines _).trans
      (standing_of_state (state_exchange s c _ _))
  · exact standing_of_state (state_exchange s c _ _)

theorem standing_openDocument (s : System) (r : Request) (c : Nat) :
    (s.openDocument r c).standing = s.standing := by
  have same := standing_notify s c (.didOpen s.state.options.documentUri
    (s.connection c).session.languageId (Preamble.inFrontOf s.state.preamble r.text))
  unfold openDocument
  simp only []
  split
  · rename_i told
    rw [told] at same
    exact (standing_finishRequest _ r _).trans same
  · rename_i told
    rw [told] at same
    exact (standing_sendRequest _ r c _).trans same

/-- No request of the editor touches the standing, at whatever stage it runs. -/
@[simp] theorem standing_runRequest (s : System) (number : Nat) :
    (s.runRequest number).standing = s.standing := by
  unfold runRequest
  split
  · rfl
  · split
    · unfold startRequest
      split
      · exact standing_finishRequest s _ _
      · have same := standing_validSession s
        split
        · rename_i valid
          rw [valid] at same
          exact (standing_finishRequest _ _ _).trans same
        · rename_i valid
          rw [valid] at same
          split
          · exact (standing_openDocument _ _ _).trans same
          · exact (standing_finishRequest _ _ _).trans same
    · simp only []
      split
      · exact standing_settleRequest _ _ _ _ _
      · rfl

/-! ## Attempts

From here on the tally may change, and only the configuration is followed. -/

theorem configuration_cancelRetry (s : System) : s.cancelRetry.configuration = s.configuration :=
  configuration_of_standing (standing_cancelRetry s)

/-- Another endpoint sets the count of failures back, and nothing else that was configured. -/
@[simp] theorem configuration_setEndpoint (s : System) (endpoint : String) :
    (s.setEndpoint endpoint).configuration = s.configuration := by
  unfold setEndpoint
  split
  · rfl
  · refine (configuration_of_standing (standing_connect _ endpoint)).trans ?_
    refine (configuration_of_state (state_disposeAny _ _)).trans ?_
    exact configuration_cancelRetry s

/-- A lost connection counts as one more failure; that is no part of the configuration. -/
@[simp] theorem configuration_lost (s : System) (generation : Nat) :
    (s.lost generation).configuration = s.configuration := by
  unfold lost
  split
  · rfl
  · refine (configuration_of_state (state_disposeAny _ _)).trans ?_
    split
    · exact configuration_of_standing (standing_stopChecks _)
    · rw [configuration, state_armRetry, state_stopChecks, ← configuration]

@[simp] theorem configuration_finishAttempt (s : System) (generation : Nat) :
    (s.finishAttempt generation).configuration = s.configuration := by
  unfold finishAttempt
  refine (configuration_of_state (state_endAttempt _ generation)).trans ?_
  split
  · exact configuration_lost s generation
  · rfl

/-- A session that is installed sets the count back and configures nothing. -/
@[simp] theorem configuration_install (s : System) (generation c : Nat) :
    (s.install generation c).configuration = s.configuration := by
  show (System.stopChecks _).configuration = _
  exact (configuration_of_standing (standing_stopChecks _)).trans (configuration_cancelRetry s)

/-- A handshake fails or succeeds; the count knows, the configuration does not. -/
@[simp] theorem configuration_finishHandshake (s : System) (generation c : Nat)
    (outcome : Outcome) : (s.finishHandshake generation c outcome).configuration
      = s.configuration := by
  have told (session : Session) (link : Link Message) :
      ((s.disarm (.attempt generation)).exchange c session link).configuration = s.configuration :=
    configuration_of_state (state_exchange _ c session link)
  have closed (u : System) : ((u.dispose c).closeSocket c).configuration = u.configuration :=
    configuration_of_state ((state_closeSocket _ c).trans (state_dispose u c))
  unfold finishHandshake
  simp only []
  split
  · split
    · exact (configuration_install _ _ _).trans (told _ _)
    · exact (configuration_of_state (state_endAttempt _ _)).trans ((closed _).trans (told _ _))
  · exact (configuration_finishAttempt _ _).trans ((closed _).trans (told _ _))

@[simp] theorem configuration_startSession (s : System) (generation c : Nat) :
    (s.startSession generation c).configuration = s.configuration := by
  obtain ⟨call, session, link, -, begun⟩ := startSession_eq s generation c
  have told : ((s.opening c).exchange c session link).configuration = s.configuration :=
    configuration_of_state (state_exchange _ c session link)
  rw [begun]
  cases call with
  | «over» outcome => exact (configuration_finishHandshake _ _ _ _).trans told
  | waiting id due => exact told

@[simp] theorem configuration_connectorFailed (s : System) (generation : Nat) :
    (s.connectorFailed generation).configuration = s.configuration := by
  unfold connectorFailed
  split
  · rfl
  · exact configuration_finishAttempt s generation

/-- Whether a connection is wanted or late, the configuration stays. -/
@[simp] theorem configuration_connectorOpened (s : System) (generation : Nat) (state : SocketState) :
    (s.connectorOpened generation state).configuration = s.configuration := by
  unfold connectorOpened
  split
  · rfl
  · simp only []
    split
    · exact configuration_startSession _ generation _
    · refine (configuration_of_state (state_endAttempt _ generation)).trans ?_
      exact configuration_of_state (state_closeSocket _ _)

/-- An attempt runs through all its phases with one configuration. -/
@[simp] theorem configuration_runAttempt (s : System) (generation : Nat) :
    (s.runAttempt generation).configuration = s.configuration := by
  unfold runAttempt
  split
  · rfl
  · split
    · rfl
    · rfl
    · simp only []
      unfold greeted
      split
      · exact configuration_finishHandshake _ _ _ _
      · rfl
    · split
      · exact configuration_finishAttempt s generation
      · rfl

/-! ## Actions

What an action makes of the configuration can be told from the action alone.  `configured` has one
case for each call by which an owner configures a client, one for its destruction, and none for
anything else. -/

/-- A client that is destroyed has no observer any more, and keeps the rest of its configuration. -/
theorem configuration_destroy (lasting : s.state.destroyed = false) :
    s.destroy.configuration = { s.configuration with destroyed := true, observer := none } := by
  unfold destroy
  rw [if_neg (Bool.eq_false_iff.1 lasting)]
  simp only []
  rw [configuration, state_giveUp]
  refine (configuration_of_standing (standing_stopChecks _)).trans ?_
  rw [configuration, state_stopAttempt, state_cancelRetry]
  rfl

/-- What an action makes of the configuration. -/
def configured (s : System) : Action → Configuration
  | .destroy => if s.state.destroyed then s.configuration
    else { s.configuration with destroyed := true, observer := none }
  | .setPreamble preamble => { s.configuration with preamble }
  | .setSnippets snippets => { s.configuration with snippets }
  | .setObserver observer => { s.configuration with observer := some observer }
  | _ => s.configuration

/-- Only its owner configures a client. -/
theorem configuration_act (s : System) (a : Action) : (s.act a).configuration = s.configured a := by
  -- Four actions say so; the others stand where they did, or count a failed attempt at most.
  cases a with
  | connect endpoint => exact configuration_of_standing (standing_connect s endpoint)
  | setEndpoint endpoint => exact configuration_setEndpoint s endpoint
  | destroy =>
      rw [configured]
      split
      · rename_i gone
        exact congrArg configuration (destroy_of_destroyed gone)
      · rename_i lasting
        exact configuration_destroy (Bool.eq_false_iff.2 lasting)
  | checkConnected => exact configuration_of_standing (standing_isConnected s)
  | updateSettings settings => exact configuration_of_standing (standing_updateSettings s settings)
  | setPreamble preamble => exact rfl
  | setSnippets snippets => exact rfl
  | setObserver observer => exact rfl
  | ask origin feature target text place => exact rfl
  | disown => exact configuration_of_standing (standing_release { s with owned := false })
  | run job =>
      cases job with
      | attempt generation => exact configuration_runAttempt s generation
      | reader c => exact configuration_of_state (Talk.runReader s c).state
      | pause token => exact configuration_of_standing (standing_runPause s token)
      | checks id => exact configuration_of_standing (standing_runChecks s id)
      | request number => exact configuration_of_standing (standing_runRequest s number)
      | peer c => exact rfl
      | parcel number => exact rfl
  | wait ms => exact rfl
  | connectorFailed generation => exact configuration_connectorFailed s generation
  | connectorOpened generation state => exact configuration_connectorOpened s generation state
  | peerState c next =>
      obtain ⟨agenda, connections, moved, -⟩ := peerState_eq s c next
      show (s.peerState c next).configuration = s.configuration
      rw [moved]
      rfl
  | peerFeed c text => exact configuration_of_state (Calm.peerFeed s c text).state
  | peerEndFeed c => exact rfl
  | peerGone c => exact configuration_of_state (Calm.peerGone s c).state
  | peerTake c => exact rfl

/-- The delays of a client are those that it was told when it was made. -/
theorem Reachable.terms {options : Options} (run : Reachable options s) :
    s.state.options = options ∧ s.state.retry.backoff = options.backoff ∧
      s.state.retry.forcedDelay = options.forcedDelay := by
  induction run with
  | fresh => exact ⟨rfl, rfl, rfl⟩
  | @act s a _ ih =>
      obtain ⟨backoff, forced⟩ := (worked_act s a).terms
      refine ⟨?_, backoff.trans ih.2.1, forced.trans ih.2.2⟩
      refine Eq.trans ?_ ih.1
      refine (congrArg Configuration.options (configuration_act s a)).trans ?_
      unfold configured
      split
      · split <;> rfl
      all_goals rfl

/-! ## Who observes

The host is made the observer of signature help when the bridge is set up.  That it still is can
be told from the configuration, so it follows from what is known of all actions. -/

/-- The host observes signature help as long as the client lasts. -/
def HostObserves (s : System) : Prop :=
  s.state.observer = if s.state.destroyed then none else some .host

/-- Whether the host observes can be told from the configuration. -/
theorem HostObserves.of_configuration (observes : s.HostObserves)
    (same : t.configuration = s.configuration) : t.HostObserves := by
  have observer : t.state.observer = s.state.observer := congrArg Configuration.observer same
  have destroyed : t.state.destroyed = s.state.destroyed := congrArg Configuration.destroyed same
  rw [HostObserves, observer, destroyed]
  exact observes

/-- It does so until somebody else is to observe. -/
theorem HostObserves.act (observes : s.HostObserves) {a : Action}
    (other : ∀ observer, a ≠ .setObserver observer) : (s.act a).HostObserves := by
  cases a with
  | destroy =>
      cases gone : s.state.destroyed with
      | true => exact (congrArg HostObserves (destroy_of_destroyed gone)).mpr observes
      | false =>
          have same := configuration_destroy gone
          have observer : s.destroy.state.observer = none := congrArg Configuration.observer same
          have destroyed : s.destroy.state.destroyed = true := congrArg Configuration.destroyed same
          show s.destroy.state.observer = if s.destroy.state.destroyed then none else some .host
          rw [observer, if_pos destroyed]
  | setPreamble preamble => exact observes
  | setSnippets snippets => exact observes
  | setObserver observer => exact absurd rfl (other observer)
  | _ => exact observes.of_configuration (configuration_act s _)

end System
end Client
end LanguageBridge
