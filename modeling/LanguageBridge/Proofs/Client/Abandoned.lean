import LanguageBridge.Proofs.Client.Step
import LanguageBridge.Proofs.Client.Working

/-!
# A client that nobody holds

When the last one who holds a client lets go of it, the client is dropped together with the slot for
the session in use.  Jobs that are left over run on, but none of them can put a session into that
slot again: an attempt that is over or that has shaken hands finds its client gone.  So a session in
use is that of a client that somebody holds, in every run and without further assumptions.

## How a client is dropped

There are two ways out.  Its owner lets go while no request waits on it, or the last such request is
over after its owner has let go.  `Released s t` says of an action that the client went on being
held, or that it was dropped at the end, after some steps in which it still was.  A client is
therefore never dropped in the middle of something.

## Main results

* `System.released_act`: every action of a client that is held is of this kind.
* `Reachable.vacated`: a client that is gone has no session in use, in any reachable state.
* The equations `…_of_gone` say what jobs do that run on without their client.  They change
  connections and their own entries in the lists, never the state.
-/

namespace LanguageBridge.Client.System

open Editor (Answer)

variable {s t : System}

/-! ## What is left to jobs of a client that is gone -/

/-- An attempt that ends leaves the state of the client alone. -/
@[simp] theorem state_endAttempt (s : System) (generation : Nat) :
    (s.endAttempt generation).state = s.state := by
  unfold endAttempt
  split
  · rfl
  · exact (Calm.leave _ _).state

/-- An attempt that is over finds its client gone and reports nothing. -/
theorem finishAttempt_of_gone (gone : s.alive = false) (generation : Nat) :
    s.finishAttempt generation = s.endAttempt generation := by
  rw [finishAttempt, if_neg (by simp [gone])]

/-- The state is not looked at once the client is gone. -/
theorem state_finishAttempt_of_gone (gone : s.alive = false) (generation : Nat) :
    (s.finishAttempt generation).state = s.state := by
  rw [finishAttempt_of_gone gone]
  exact state_endAttempt s generation

/-- However a handshake ends, the attempt is over when its client is gone, and the server has been
asked to close the connection. -/
theorem finishHandshake_of_gone (gone : s.alive = false) (generation c : Nat) (outcome : Outcome) :
    ∃ t, Talk s t ∧ SocketState.closing.rank ≤ (t.connection c).link.state.rank ∧
      s.finishHandshake generation c outcome = t.endAttempt generation := by
  rcases finished : (s.connection c).session.finishHandshake (s.connection c).link outcome
    with ⟨result, session, link⟩
  let told := (s.disarm (.attempt generation)).exchange c session link
  have spoke : Talk s told := (Calm.disarm s _).talk.trans (.finishHandshake _ c finished)
  have gone' : told.alive = false := spoke.alive.trans gone
  have closed : Calm told ((told.dispose c).closeSocket c) :=
    (Calm.dispose told c).trans (.closeSocket _ c)
  refine ⟨_, spoke.trans closed.talk, closing_closeSocket _ c, ?_⟩
  unfold finishHandshake
  simp only []
  rw [show (s.disarm (.attempt generation)).connection c = s.connection c from rfl, finished]
  cases result with
  | ok capabilities =>
      have unwanted : told.wanted generation = false := by rw [wanted, gone']; rfl
      exact if_neg (Bool.eq_false_iff.1 unwanted)
  | error e => exact finishAttempt_of_gone (closed.alive.trans gone') generation

/-- A handshake of a client that is gone ends without it. -/
theorem state_finishHandshake_of_gone (gone : s.alive = false) (generation c : Nat)
    (outcome : Outcome) : (s.finishHandshake generation c outcome).state = s.state := by
  obtain ⟨t, talk, -, ended⟩ := finishHandshake_of_gone gone generation c outcome
  rw [ended, state_endAttempt, talk.state]

theorem state_runAttempt_of_gone (gone : s.alive = false) (generation : Nat) :
    (s.runAttempt generation).state = s.state := by
  unfold runAttempt
  split
  · rfl
  · split
    · rfl
    · rfl
    · simp only []
      unfold greeted
      split
      · exact state_finishHandshake_of_gone (s := System.update s _ _) gone generation _ _
      · rfl
    · split
      · exact state_finishAttempt_of_gone gone generation
      · rfl

/-- A connector that fails a client that is gone tells nobody. -/
theorem state_connectorFailed_of_gone (gone : s.alive = false) (generation : Nat) :
    (s.connectorFailed generation).state = s.state := by
  unfold connectorFailed
  split
  · rfl
  · exact state_finishAttempt_of_gone gone generation

/-- A connection that is opened for a client that is gone is closed again. -/
theorem state_connectorOpened_of_gone (gone : s.alive = false) (generation : Nat)
    (state : SocketState) : (s.connectorOpened generation state).state = s.state := by
  have unwanted : ¬s.wanted generation = true := by simp [wanted, gone]
  unfold connectorOpened
  split
  · rfl
  · simp only [if_neg unwanted, state_endAttempt]
    exact state_closeSocket _ _

/-- A pause ends; nobody is there to claim its slot. -/
theorem endPause_of_gone (gone : s.alive = false) (token : Nat) :
    s.endPause token = { s with pauses := s.pauses.filter (·.token ≠ token) } := by
  have here : (!({ s with pauses := s.pauses.filter (·.token ≠ token) } : System).alive) = true :=
    congrArg not gone
  unfold endPause
  exact if_pos here

/-! ## No session in use comes back -/

theorem current_giveUp (s : System) : s.giveUp.state.current = none := by
  obtain ⟨t, -, -, given⟩ := giveUp_eq s
  rw [given]

/-- Connecting does not put a session into use; that takes a handshake. -/
theorem current_connect (unused : s.state.current = none) (endpoint : String) :
    (s.connect endpoint).state.current = none := by
  unfold connect
  split
  · exact unused
  · exact current_giveUp _

theorem current_setEndpoint (unused : s.state.current = none) (endpoint : String) :
    (s.setEndpoint endpoint).state.current = none := by
  unfold setEndpoint
  split
  · exact unused
  · refine current_connect ?_ endpoint
    rw [state_disposeAny]

theorem current_recover (unused : s.state.current = none) (c : Nat) :
    (s.recover c).state.current = none := by
  unfold recover
  rw [unused]
  simp only []
  split
  · exact (current_reconnectSoon s).trans unused
  · exact unused

/-- Whatever a step does to a client that is gone, no session comes into use. -/
theorem Step.unused (step : Step s t) (gone : s.alive = false) (unused : s.state.current = none) :
    t.state.current = none := by
  have of_state (same : t.state = s.state) : t.state.current = none := same ▸ unused
  cases step with
  | calm calm => exact of_state calm.state
  | read c => exact of_state (Talk.runReader s c).state
  | send c m link current sent => cases unused.symm.trans current
  | call c method params answer session link current called => cases unused.symm.trans current
  | configure preamble snippets observer => exact unused
  | face rest kept => exact of_state (by rw [rest])
  | disown => exact unused
  | release =>
      unfold System.release
      split
      · exact unused
      · rfl
  | recover c => exact current_recover unused c
  | nudge c current usable shut => cases unused.symm.trans current
  | connect endpoint => exact current_connect unused endpoint
  | setEndpoint endpoint => exact current_setEndpoint unused endpoint
  | destroy =>
      unfold System.destroy
      split
      · exact unused
      · exact current_giveUp _
  | check id monitor => exact unused
  | endChecks id finished => exact unused
  | pause token due => exact unused
  | endPause token => exact of_state (by rw [endPause_of_gone gone])
  | attempt generation => exact of_state (state_runAttempt_of_gone gone generation)
  | connectorFailed generation => exact of_state (state_connectorFailed_of_gone gone generation)
  | connectorOpened generation state =>
      exact of_state (state_connectorOpened_of_gone gone generation state)

/-- So it is for some steps one after another, and the client stays gone. -/
theorem Steps.unused (steps : Steps s t) (gone : s.alive = false) (unused : s.state.current = none) :
    t.alive = false ∧ t.state.current = none := by
  induction steps with
  | refl => exact ⟨gone, unused⟩
  | @tail r u _ step ih =>
      refine ⟨?_, step.unused ih.1 ih.2⟩
      refine Bool.eq_false_iff.2 fun back => ?_
      cases ih.1.symm.trans (step.alive back)

/-! ## Letting go -/

/-- What becomes of a client that somebody holds: somebody still does, or after some steps in which
somebody did the last one lets go, which by itself moves nothing that runs for the client, and the
client is dropped on the spot. -/
inductive Released (s : System) : System → Prop
  | held {t : System} (alive : t.alive = true) : Released s t
  | dropped {u v : System} (steps : Steps s u) (alive : u.alive = true) (gone : v.alive = false)
      (rest : v = { u with
        agenda := v.agenda, owned := v.owned, requests := v.requests, events := v.events
        answers := v.answers }) : Released s v.release

/-- A client that has been dropped has no session in use and offers nothing any more. -/
theorem Released.vacated (released : Released s t) (gone : t.alive = false) :
    t.state.current = none ∧ t.state.handles = [] := by
  cases released with
  | held alive => cases gone.symm.trans alive
  | dropped steps alive left rest =>
      rw [release, if_neg (Bool.eq_false_iff.1 left)]
      exact ⟨rfl, rfl⟩

/-- The owner lets go, and requests may go on holding the client. -/
theorem released_disown (alive : s.alive = true) : Released s s.disown := by
  cases left : ({ s with owned := false } : System).alive with
  | true =>
      rw [disown, release, if_pos left]
      exact .held left
  | false => exact .dropped .refl alive left rfl

/-- A request is over, and it may have been the last hold on a client without an owner. -/
theorem released_finishRequest (steps : Steps s t) (alive : t.alive = true) (r : Request)
    (answer : Answer) : Released s (t.finishRequest r answer) := by
  let v := ({ t with requests := t.requests.filter (·.number ≠ r.number) }.forget
    (.request r.number)).deliver r.origin answer
  show Released s v.release
  cases left : v.alive with
  | true =>
      rw [release, if_pos left]
      exact .held left
  | false =>
      refine .dropped steps alive left ?_
      unfold v deliver
      split <;> rfl

/-- What is concluded from an outcome does not change who holds the client. -/
theorem alive_conclude (s : System) (r : Request) (c : Nat) (lines : UInt32) (outcome : Outcome) :
    (s.conclude r c lines outcome).2.alive = s.alive := by
  unfold conclude
  split
  · exact alive_of_front (front_requestFailed s c _)
  · split
    · exact alive_of_front (front_requestFailed s c _)
    · unfold observe
      split <;> rfl
    · rfl

/-- A request is settled: first what follows from its outcome, then the end of the request. -/
theorem released_settleRequest (steps : Steps s t) (alive : t.alive = true) (r : Request) (c : Nat)
    (lines : UInt32) (outcome : Outcome) : Released s (t.settleRequest r c lines outcome) :=
  released_finishRequest (steps.trans (steps_conclude t r c lines outcome))
    ((alive_conclude t r c lines outcome).trans alive) r _

/-- A request that starts to wait holds the client. -/
theorem alive_setStage (alive : s.alive = true) (number c id due : Nat) (lines : UInt32) :
    (s.setStage number (.waiting c id due lines)).alive = true := by
  rw [System.alive, Bool.or_eq_true, List.any_eq_true] at alive ⊢
  rcases alive with owned | ⟨r, mem, waits⟩
  · exact Or.inl owned
  · refine Or.inr ⟨_, List.mem_map_of_mem mem, ?_⟩
    split
    · rfl
    · exact waits

/-- A request that is sent waits on a session and so holds the client itself, or it is over at
once. -/
theorem released_sendRequest (steps : Steps s t) (alive : t.alive = true) (r : Request) {c : Nat}
    (current : t.state.current = some c) (lines : UInt32) :
    Released s (t.sendRequest r c lines) := by
  rcases called : (t.connection c).session.call (t.connection c).link t.now
    (t.connection c).session.requestTimeout r.feature.method
    (Message.placeParams t.state.options.documentUri (Preamble.toServer lines r.place))
    with ⟨call, session, link⟩
  have here : (t.exchange c session link).alive = true :=
    (alive_of_front (front_exchange t c session link)).trans alive
  unfold sendRequest
  simp only [called]
  split
  · exact released_settleRequest (steps.tail (.call c _ _ _ session link current called)) here r c
      lines _
  · exact .held (alive_setStage here r.number c _ _ lines)

theorem released_openDocument (alive : s.alive = true) (r : Request) {c : Nat}
    (current : s.state.current = some c) : Released s (s.openDocument r c) := by
  unfold openDocument
  simp only []
  rcases notify_cases s c (.didOpen s.state.options.documentUri
    (s.connection c).session.languageId (Preamble.inFrontOf s.state.preamble r.text))
    with ⟨link, sent, told⟩ | ⟨e, -, told⟩ <;> rw [told]
  · refine released_sendRequest (.one (.send c _ link current sent)) ?_ r ?_ _
    · exact (alive_of_front (front_exchange s c _ link)).trans alive
    · rw [state_exchange]
      exact current
  · exact released_finishRequest (steps_requestFailed s c e)
      ((alive_of_front (front_requestFailed s c e)).trans alive) r _

/-- A request that starts gets an answer at once, or it is sent. -/
theorem released_startRequest (alive : s.alive = true) (r : Request) :
    Released s (s.startRequest r) := by
  unfold startRequest
  split
  · exact released_finishRequest .refl alive r _
  · rcases validSession_cases s with ⟨-, valid⟩ | ⟨c, current, -, valid⟩ | ⟨c, e, -, -, valid⟩ <;>
      rw [valid]
    · exact released_finishRequest .refl alive r _
    · simp only []
      split
      · exact released_openDocument alive r current
      · exact released_finishRequest .refl alive r _
    · exact released_finishRequest (.one (.recover c))
        ((alive_of_front (front_recover s c)).trans alive) r _

/-- A request that runs starts or looks for its answer. -/
theorem released_runRequest (alive : s.alive = true) (number : Nat) :
    Released s (s.runRequest number) := by
  unfold runRequest
  split
  · exact .held alive
  · split
    · exact released_startRequest alive _
    · rename_i r _ _ c id due lines _
      rcases resumed : (s.connection c).session.resume s.now id due with ⟨call, session⟩
      have looked : Calm s (s.update c fun k => { k with session }) := .resume resumed
      simp only [resumed]
      split
      · exact released_settleRequest (.of_calm looked) (looked.alive.trans alive) r c lines _
      · exact .held (looked.alive.trans alive)

/-- Whatever is done to a client that somebody holds, if then nobody does, it has been dropped. -/
theorem released_act (alive : s.alive = true) (a : Action) : Released s (s.act a) := by
  have of_front (same : (s.act a).front = s.front) : Released s (s.act a) :=
    .held ((alive_of_front same).trans alive)
  cases a with
  | connect endpoint => exact of_front (front_connect s endpoint)
  | setEndpoint endpoint => exact of_front (front_setEndpoint s endpoint)
  | destroy => exact of_front (front_destroy s)
  | checkConnected => exact of_front (front_isConnected s)
  | updateSettings settings => exact of_front (front_updateSettings s settings)
  | setPreamble preamble => exact of_front rfl
  | setSnippets snippets => exact of_front rfl
  | setObserver observer => exact of_front rfl
  | ask origin feature target text place =>
      refine .held ?_
      show (s.ask origin feature target text place).alive = true
      rw [← alive]
      simp [System.alive, ask, wake, Request.connection?]
  | disown => exact released_disown alive
  | run job =>
      cases job with
      | attempt generation => exact of_front (front_runAttempt s generation)
      | reader c => exact of_front (front_runReader s c)
      | pause token => exact of_front (front_runPause s token)
      | checks id => exact of_front (front_runChecks s id)
      | request number => exact released_runRequest alive number
      | peer c => exact of_front rfl
      | parcel number => exact of_front rfl
  | wait ms => exact of_front rfl
  | connectorFailed generation => exact of_front (front_connectorFailed s generation)
  | connectorOpened generation state => exact of_front (front_connectorOpened s generation state)
  | peerState c next => exact .held ((alive_peerState s c next).trans alive)
  | peerFeed c text => exact of_front (Calm.peerFeed s c text).front
  | peerEndFeed c => exact of_front (Calm.peerEndFeed s c).front
  | peerGone c => exact of_front (Calm.peerGone s c).front
  | peerTake c => exact of_front (Calm.peerTake s c).front

/-- A client that nobody holds has no session in use. -/
theorem Reachable.vacated {options : Options} (run : Reachable options s) (gone : s.alive = false) :
    s.state.current = none := by
  induction run with
  | fresh => cases gone
  | @act s a run ih =>
      cases alive : s.alive with
      | true => exact ((released_act alive a).vacated gone).1
      | false =>
          rcases act_cases s a with steps | ⟨c, next, moved⟩
          · exact (steps.unused alive (ih alive)).2
          · rw [moved]
            obtain ⟨agenda, connections, same, -⟩ := peerState_eq s c next
            rw [same]
            exact ih alive

/-- A client with a session in use is held by somebody, whatever the run. -/
theorem Reachable.alive_of_current {options : Options} (run : Reachable options s) {c : Nat}
    (current : s.state.current = some c) : s.alive = true := by
  refine Bool.not_eq_false _ ▸ fun gone => ?_
  cases (run.vacated gone).symm.trans current

end LanguageBridge.Client.System
