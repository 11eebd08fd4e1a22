import LanguageBridge.Client.Run
import LanguageBridge.Proofs.Client.Front
import Mathlib.Logic.Relation

/-!
# What a client can do in one step

An action of a run (`System.act`) is made of a few steps, and `System.Step` lists them with the
guards under which they are taken: a frame is sent only on the session in use, only a request that
a living client answers starts to wait, and so on.  `System.steps_act` takes every action apart
into such steps, and from it follow the principles by which invariants are proved: what every step
keeps, an action keeps, as does a peer that moves a socket (`act_keep`), and so do runs in which no
peer moves a socket backwards (`Steady.invariant`).  Whoever uses them has to look at single steps
only.

They speak of clients that are alive.  Nobody can tell anything of a client that nobody holds, and a
client that is gone does not come back (`Step.alive`).

## How to prove an invariant

1. State it as a structure over systems, with a clause for each fact that the others need.
2. Show that a calm step keeps it, that a peer that moves a socket does, and then one lemma for each
   constructor of `Step`, in most cases the lemma about the function that the constructor names.
3. Apply `act_keep`, or `Steady.invariant` if it only holds as long as no socket goes backwards.

## Why steps, and not functions

A request that runs can do a dozen things in a row: find a stale session and drop it, arm a retry,
send a text, send the request, wait, answer, let go of the client.  As steps these are the same
things that other actions do, so the case analysis is made once, here.  The guards in the
constructors carry what the functions have found out by then, and `front` tells that nothing else
has changed.
-/

namespace LanguageBridge.Client.System

open Editor (Answer Feature)

/-! ## Steps

One constructor for each primitive operation that moves the state of a client.  Of operations on
connections most are calm and need only one; the others are a reader that runs, and a message or a
request that is sent. -/

/-- One step of a client or of what runs for it. -/
inductive Step (s : System) : System → Prop
  /-- Timers, readiness, and what happens to a connection without a frame. -/
  | calm {t : System} (calm : Calm s t) : Step s t
  /-- The reader of a connection runs. -/
  | read (c : Nat) : Step s (s.runReader c)
  /-- A message is sent on the session in use. -/
  | send (c : Nat) (m : Message) (link : Link Message) (current : s.state.current = some c)
      (sent : (s.connection c).session.notify (s.connection c).link m = .ok link) :
      Step s (s.exchange c (s.connection c).session link)
  /-- A request is sent on the session in use. -/
  | call (c : Nat) (method : String) (params : Json) (answer : Session.Call) (session : Session)
      (link : Link Message) (current : s.state.current = some c)
      (called : (s.connection c).session.call (s.connection c).link s.now
        (s.connection c).session.requestTimeout method params = (answer, session, link)) :
      Step s (s.exchange c session link)
  /-- The preamble, the snippets or the observer change. -/
  | configure (preamble : Option String) (snippets : List Editor.Snippet)
      (observer : Option Observer) :
      Step s { s with state := { s.state with preamble, snippets, observer } }
  /-- Requests are made, staged or answered. -/
  | face {t : System}
      (rest : t = { s with
        requests := t.requests, asked := t.asked, events := t.events, observed := t.observed
        answers := t.answers })
      (alive : t.alive = true → s.alive = true) : Step s t
  /-- The owner lets go of the client. -/
  | disown : Step s { s with owned := false }
  /-- A client that nobody holds is dropped. -/
  | release : Step s s.release
  /-- A stale session is recovered from. -/
  | recover (c : Nat) : Step s (s.recover c)
  /-- A health check finds a socket that does not carry frames yet. -/
  | nudge (c : Nat) (current : s.state.current = some c) (usable : (s.connection c).inspect = .ok ())
      (shut : (s.connection c).link.isOpen = false) : Step s s.reconnectSoon
  | connect (endpoint : String) : Step s (s.connect endpoint)
  | setEndpoint (endpoint : String) : Step s (s.setEndpoint endpoint)
  | destroy : Step s s.destroy
  /-- A series of health checks moves on. -/
  | check (id : Nat) (monitor : Monitor) : Step s (s.setMonitor id monitor)
  /-- A series of health checks whose client is gone ends. -/
  | endChecks (id : Nat) (finished : s.alive = false ∨ s.state.destroyed = true) :
      Step s (s.endChecks id)
  /-- A pause begins. -/
  | pause (token due : Nat) :
      Step s { s with pauses := s.pauses.map fun (p : Pause) =>
        if p.token = token then { p with due := some due } else p }
  /-- A pause is over. -/
  | endPause (token : Nat) : Step s (s.endPause token)
  | attempt (generation : Nat) : Step s (s.runAttempt generation)
  | connectorFailed (generation : Nat) : Step s (s.connectorFailed generation)
  | connectorOpened (generation : Nat) (state : SocketState) :
      Step s (s.connectorOpened generation state)

/-- Some steps one after another. -/
abbrev Steps : System → System → Prop := Relation.ReflTransGen Step

variable {s t : System}

/-- Who is dropped was not held before either, so the front is the same. -/
@[simp] theorem front_release (s : System) : s.release.front = s.front := by
  unfold release
  split
  · rfl
  · refine Eq.trans (b := (System.stopChecks _).front) rfl ?_
    rw [front_stopChecks, front_cancelRetry]

/-- A request taken away, and its answer given. -/
def answered (s : System) (r : Request) (answer : Answer) : System :=
  { s with requests := s.requests.filter (·.number ≠ r.number) }.deliver r.origin answer

/-- What the outside sees of an answer depends only on what it has seen before. -/
theorem front_answered (same : t.front = s.front) (r : Request) (answer : Answer) :
    (t.answered r answer).front = (s.answered r answer).front := by
  obtain ⟨owned, requests, asked, events, observed, answers⟩ := Front.mk.inj same
  unfold answered deliver
  split <;> simp only [front, owned, requests, asked, events, observed, answers]

/-- A request that is over shows its answer outside; letting go of the client does not show. -/
theorem front_finishRequest (s : System) (r : Request) (answer : Answer) :
    (s.finishRequest r answer).front = (s.answered r answer).front := by
  refine (front_release _).trans ?_
  unfold answered deliver
  split <;> rfl

/-- A client that is gone does not come back. -/
theorem Step.alive (step : Step s t) (alive : t.alive = true) : s.alive = true := by
  have of_front (same : t.front = s.front) : s.alive = true := (alive_of_front same).symm.trans alive
  cases step with
  | calm calm => exact calm.alive.symm.trans alive
  | read c => exact of_front (front_runReader s c)
  | send c m link current sent => exact of_front (front_exchange s c _ link)
  | call c method params answer session link current called =>
      exact of_front (front_exchange s c session link)
  | configure preamble snippets observer => exact alive
  | face rest kept => exact kept alive
  | disown =>
      rw [System.alive, Bool.or_eq_true] at alive ⊢
      exact Or.inr (alive.resolve_left (by simp))
  | release => exact of_front (front_release s)
  | recover c => exact of_front (front_recover s c)
  | nudge c current usable shut => exact of_front (front_reconnectSoon s)
  | connect endpoint => exact of_front (front_connect s endpoint)
  | setEndpoint endpoint => exact of_front (front_setEndpoint s endpoint)
  | destroy => exact of_front (front_destroy s)
  | check id monitor => exact alive
  | endChecks id finished => exact alive
  | pause token due => exact alive
  | endPause token => exact of_front (front_endPause s token)
  | attempt generation => exact of_front (front_runAttempt s generation)
  | connectorFailed generation => exact of_front (front_connectorFailed s generation)
  | connectorOpened generation state => exact of_front (front_connectorOpened s generation state)

namespace Steps

theorem one (step : Step s t) : Steps s t := .single step

theorem of_calm (calm : Calm s t) : Steps s t := .single (.calm calm)

/-- A client that is there at the end was there all along. -/
theorem alive (steps : Steps s t) (alive : t.alive = true) : s.alive = true := by
  induction steps with
  | refl => exact alive
  | tail _ step ih => exact ih (step.alive alive)

/-- What the steps of a living client keep, some of them one after another keep. -/
theorem keep {P : System → Prop}
    (step : ∀ {s t : System}, s.alive = true → t.alive = true → P s → Step s t → P t)
    (steps : Steps s t) (here : t.alive = true) (holds : P s) : P t := by
  induction steps with
  | refl => exact holds
  | tail _ next ih =>
      have before := next.alive here
      exact step before here (ih before) next

end Steps

/-! ## Validity checks -/

/-- The three ways in which a validity check goes. -/
theorem validSession_cases (s : System) :
    (s.state.current = none ∧ s.validSession = (none, s)) ∨
    (∃ c, s.state.current = some c ∧ (s.connection c).inspect = .ok () ∧
      s.validSession = (some c, s)) ∨
    (∃ c e, s.state.current = some c ∧ (s.connection c).inspect = .error e ∧
      s.validSession = (none, s.recover c)) := by
  unfold validSession
  cases current : s.state.current with
  | none => exact Or.inl ⟨rfl, rfl⟩
  | some c =>
      cases inspected : (s.connection c).inspect with
      | ok _ => exact Or.inr (Or.inl ⟨c, rfl, inspected, by simp [inspected]⟩)
      | error e => exact Or.inr (Or.inr ⟨c, e, rfl, inspected, by simp [inspected]⟩)

/-- The two ways in which sending a message goes. -/
theorem notify_cases (s : System) (c : Nat) (m : Message) :
    (∃ link, (s.connection c).session.notify (s.connection c).link m = .ok link ∧
      s.notify c m = (.ok (), s.exchange c (s.connection c).session link)) ∨
    (∃ e, (s.connection c).session.notify (s.connection c).link m = .error e ∧
      s.notify c m = (.error e, s.requestFailed c e)) := by
  unfold notify
  cases sent : (s.connection c).session.notify (s.connection c).link m with
  | ok link => exact Or.inl ⟨link, rfl, by simp [sent]⟩
  | error e => exact Or.inr ⟨e, rfl, by simp [sent]⟩

/-- A failure makes for a recovery, or for nothing. -/
theorem steps_requestFailed (s : System) (c : Nat) (e : Failure) :
    Steps s (s.requestFailed c e) := by
  unfold requestFailed
  split
  · exact .one (.recover c)
  · exact .refl

/-- Asking whether there is a connection may recover from a stale session. -/
theorem steps_isConnected (s : System) : Steps s s.isConnected.2 := by
  unfold isConnected
  rcases validSession_cases s with ⟨-, valid⟩ | ⟨c, -, -, valid⟩ | ⟨c, e, -, -, valid⟩
  · rw [valid]
  · rw [valid]
  · rw [valid]
    exact .one (.recover c)

/-- Settings are sent on the session in use, or not at all. -/
theorem steps_updateSettings (s : System) (settings : Json) :
    Steps s (s.updateSettings settings).2 := by
  unfold updateSettings
  split
  · exact .refl
  · rcases validSession_cases s with ⟨-, valid⟩ | ⟨c, current, -, valid⟩ | ⟨c, e, -, -, valid⟩
    · rw [valid]
    · rw [valid]
      simp only []
      rcases notify_cases s c (.settingsChanged settings) with ⟨link, sent, told⟩ | ⟨e, -, told⟩
      · rw [told]
        exact .one (.send c _ link current sent)
      · rw [told]
        exact steps_requestFailed s c e
    · rw [valid]
      exact .one (.recover c)

/-- A health check recovers, or nudges a socket that carries no frames, or finds everything in
order. -/
theorem steps_checkHealth (s : System) : Steps s s.checkHealth := by
  unfold checkHealth
  rcases validSession_cases s with ⟨-, valid⟩ | ⟨c, current, usable, valid⟩ | ⟨c, e, -, -, valid⟩
  · rw [valid]
  · rw [valid]
    simp only []
    split
    · exact .refl
    · rename_i shut
      exact .one (.nudge c current usable (Bool.eq_false_iff.2 shut))
  · rw [valid]
    exact .one (.recover c)

/-! ## Pauses and health checks -/

theorem steps_runPause (s : System) (token : Nat) : Steps s (s.runPause token) := by
  unfold runPause
  split
  · exact .refl
  · split
    · split
      · exact .one (.endPause token)
      · exact .refl
    · simp only []
      split
      · exact .one (.endPause token)
      · exact (Steps.one (.pause token _)).tail (.calm (.arm _ _ _))

/-- A series of checks begins, ends, or checks and moves on. -/
theorem steps_runChecks (s : System) (id : Nat) : Steps s (s.runChecks id) := by
  unfold runChecks
  split
  · exact .refl
  · split
    · exact (Steps.one (.check id _)).tail (.calm (.arm _ _ _))
    · split
      · exact .refl
      · split
        · rename_i finished
          rw [Bool.or_eq_true, Bool.not_eq_true'] at finished
          exact .one (.endChecks id finished)
        · exact ((steps_checkHealth s).tail (.check id _)).tail (.calm (.arm _ _ _))

/-! ## Requests

A request of the editor is the longest operation: it may come across a stale session, send two
frames and be over at once.  Each of these is a step of its own. -/

/-- A request is over: it faces the outside with its answer, and then the client may be
dropped. -/
theorem steps_finishRequest (s : System) (r : Request) (answer : Answer) :
    Steps s (s.finishRequest r answer) := by
  have answered : Step (s.forget (.request r.number))
      (({ s with requests := s.requests.filter (·.number ≠ r.number) }.forget
        (.request r.number)).deliver r.origin answer) := by
    refine .face ?_ ?_
    · unfold deliver
      split <;> rfl
    · intro alive
      have held : ({ s with
          requests := s.requests.filter (·.number ≠ r.number) } : System).alive = true := by
        unfold deliver at alive
        split at alive <;> exact alive
      -- Whoever holds the client now has held it before.
      simp only [System.alive, Bool.or_eq_true, List.any_eq_true, List.mem_filter] at held ⊢
      rcases held with owned | ⟨q, ⟨mem, -⟩, waits⟩
      · exact Or.inl owned
      · exact Or.inr ⟨q, mem, waits⟩
  exact ((Steps.of_calm (.forget s _)).tail answered).tail .release

/-- What is concluded from an outcome is a recovery or an observation. -/
theorem steps_conclude (s : System) (r : Request) (c : Nat) (lines : UInt32) (outcome : Outcome) :
    Steps s (s.conclude r c lines outcome).2 := by
  unfold conclude
  split
  · exact steps_requestFailed s c _
  · split
    · exact steps_requestFailed s c _
    · unfold observe
      split
      · exact .refl
      · exact .one (.face rfl id)
      · exact .one (.face rfl id)
    · exact .refl

theorem steps_settleRequest (s : System) (r : Request) (c : Nat) (lines : UInt32)
    (outcome : Outcome) : Steps s (s.settleRequest r c lines outcome) :=
  (steps_conclude s r c lines outcome).trans (steps_finishRequest _ r _)

theorem steps_sendRequest (s : System) (r : Request) (c : Nat) (lines : UInt32)
    (alive : s.alive = true) (current : s.state.current = some c) :
    Steps s (s.sendRequest r c lines) := by
  rcases called : (s.connection c).session.call (s.connection c).link s.now
    (s.connection c).session.requestTimeout r.feature.method
    (Message.placeParams s.state.options.documentUri (Preamble.toServer lines r.place))
    with ⟨call, session, link⟩
  have sent := Steps.one (.call c _ _ call session link current called)
  unfold sendRequest
  simp only [called]
  split
  · exact sent.trans (steps_settleRequest _ r c lines _)
  · refine (sent.tail (.face rfl ?_)).tail (.calm (.arm _ _ _))
    intro _
    rw [alive_of_front (front_exchange s c session link)]
    exact alive

/-- A text is opened on the session in use, and if that goes wrong there is a failure to react
to. -/
theorem steps_openDocument (s : System) (r : Request) (c : Nat) (alive : s.alive = true)
    (current : s.state.current = some c) : Steps s (s.openDocument r c) := by
  unfold openDocument
  simp only []
  rcases notify_cases s c (.didOpen s.state.options.documentUri
    (s.connection c).session.languageId (Preamble.inFrontOf s.state.preamble r.text))
    with ⟨link, sent, told⟩ | ⟨e, -, told⟩
  · rw [told]
    refine (Steps.one (.send c _ link current sent)).trans (steps_sendRequest _ r c _ ?_ ?_)
    · rw [alive_of_front (front_exchange s c _ link)]
      exact alive
    · rw [state_exchange]
      exact current
  · rw [told]
    exact (steps_requestFailed s c e).trans (steps_finishRequest _ r _)

/-- A request starts: it looks for a provider and a session, and goes on if it finds both. -/
theorem steps_startRequest (s : System) (r : Request) : Steps s (s.startRequest r) := by
  unfold startRequest
  split
  · exact steps_finishRequest s r _
  · rename_i served
    have alive : s.alive = true := by
      simp only [Bool.or_eq_true, Bool.not_eq_true', not_or] at served
      exact Bool.not_eq_false _ ▸ served.1.2
    rcases validSession_cases s with ⟨-, valid⟩ | ⟨c, current, -, valid⟩ | ⟨c, e, -, -, valid⟩
    · rw [valid]
      exact steps_finishRequest s r _
    · rw [valid]
      simp only []
      split
      · exact steps_openDocument s r c alive current
      · exact steps_finishRequest s r _
    · rw [valid]
      exact (Steps.one (.recover c)).trans (steps_finishRequest _ r _)

theorem steps_runRequest (s : System) (number : Nat) : Steps s (s.runRequest number) := by
  unfold runRequest
  split
  · exact .refl
  · split
    · exact steps_startRequest s _
    · rename_i r _ _ c id due lines _
      rcases resumed : (s.connection c).session.resume s.now id due with ⟨call, session⟩
      have looked : Calm s (s.update c fun k => { k with session }) := .resume resumed
      simp only [resumed]
      split
      · exact (Steps.of_calm looked).trans (steps_settleRequest _ r c lines _)
      · exact .of_calm looked

/-! ## Actions

Every action comes down to steps, except for a peer that moves a socket backwards. -/

/-- An action that does not move a socket backwards. -/
def Onward (s : System) : Action → Prop
  | .peerState c next => (s.connection c).link.state.rank ≤ next.rank
  | _ => True

theorem onward_of_still (s : System) {a : Action} (still : ∀ c next, a ≠ .peerState c next) :
    s.Onward a := by
  cases a with
  | peerState c next => exact absurd rfl (still c next)
  | _ => trivial

/-- Every action is made of steps. -/
theorem steps_act (s : System) (a : Action) (onward : s.Onward a) : Steps s (s.act a) := by
  cases a with
  | connect endpoint => exact .one (.connect endpoint)
  | setEndpoint endpoint => exact .one (.setEndpoint endpoint)
  | destroy => exact .one .destroy
  | checkConnected => exact steps_isConnected s
  | updateSettings settings => exact steps_updateSettings s settings
  | setPreamble preamble => exact .one (.configure preamble s.state.snippets s.state.observer)
  | setSnippets snippets => exact .one (.configure s.state.preamble snippets s.state.observer)
  | setObserver observer => exact .one (.configure s.state.preamble s.state.snippets (some observer))
  | ask origin feature target text place =>
      refine (Steps.one (.face rfl ?_)).tail (.calm (.wake _ _))
      intro alive
      simpa [System.alive, Request.connection?] using alive
  | disown => exact (Steps.one .disown).tail .release
  | run job =>
      cases job with
      | attempt generation => exact .one (.attempt generation)
      | reader c => exact .one (.read c)
      | pause token => exact steps_runPause s token
      | checks id => exact steps_runChecks s id
      | request number => exact steps_runRequest s number
      | peer c => exact .refl
      | parcel number => exact .refl
  | wait ms => exact .of_calm (.agenda s _)
  | connectorFailed generation => exact .one (.connectorFailed generation)
  | connectorOpened generation state => exact .one (.connectorOpened generation state)
  | peerState c next => exact .of_calm (.peerState s c onward)
  | peerFeed c text => exact .of_calm (.peerFeed s c text)
  | peerEndFeed c => exact .of_calm (.peerEndFeed s c)
  | peerGone c => exact .of_calm (.peerGone s c)
  | peerTake c => exact .of_calm (.peerTake s c)

/-! ## Runs

Two kinds of runs: those in which anything may happen, where a peer that moves a socket is treated
apart, and those in which no socket moves backwards. -/

/-- Whatever a peer does to the state of a socket, the client is held by the same. -/
@[simp] theorem alive_peerState (s : System) (c : Nat) (next : SocketState) :
    (s.peerState c next).alive = s.alive := by
  unfold peerState
  simp only []
  split
  · exact (Calm.wakeAll _ _).alive
  · rfl

/-- An action is made of steps, or a peer moves a socket backwards. -/
theorem act_cases (s : System) (a : Action) :
    Steps s (s.act a) ∨ ∃ c next, s.act a = s.peerState c next := by
  cases a with
  | peerState c next => exact Or.inr ⟨c, next, rfl⟩
  | _ => exact Or.inl (steps_act s _ trivial)

/-- **A client that is gone does not come back**, whatever is done to it. -/
theorem alive_of_act {a : Action} (alive : (s.act a).alive = true) : s.alive = true := by
  rcases act_cases s a with steps | ⟨c, next, moved⟩
  · exact steps.alive alive
  · rw [moved, alive_peerState] at alive
    exact alive

/-- What every step of a living client and every move of a socket keep, an action keeps. -/
theorem act_keep {P : System → Prop}
    (step : ∀ {s t : System}, s.alive = true → t.alive = true → P s → Step s t → P t)
    (moved : ∀ {s : System} (c : Nat) (next : SocketState), P s → P (s.peerState c next))
    {a : Action} (here : (s.act a).alive = true) (holds : P s) : P (s.act a) := by
  rcases act_cases s a with steps | ⟨c, next, same⟩
  · exact steps.keep step here holds
  · rw [same]
    exact moved c next holds

/-- The systems that a fresh client can come to if no peer moves a socket backwards. -/
inductive Steady (options : Options) : System → Prop
  | fresh : Steady options (.fresh options)
  | act {s : System} (a : Action) (onward : s.Onward a) : Steady options s → Steady options (s.act a)

/-- A run in which no peer moves a socket on its own. -/
theorem Steady.acts {options : Options} (run : Steady options s) {actions : List Action}
    (still : ∀ a ∈ actions, ∀ c next, a ≠ .peerState c next) : Steady options (s.acts actions) := by
  induction actions generalizing s with
  | nil => exact run
  | cons a rest ih =>
      have onward : s.Onward a := s.onward_of_still (still a List.mem_cons_self)
      exact ih (run.act a onward) fun b mem => still b (List.mem_cons_of_mem a mem)

/-- What a fresh client has and every step keeps, a client has at every moment of every run in which
no peer moves a socket backwards. -/
theorem Steady.invariant {options : Options} {P : System → Prop} (fresh : P (.fresh options))
    (step : ∀ {s t : System}, s.alive = true → t.alive = true → P s → Step s t → P t)
    (run : Steady options s) (here : s.alive = true) : P s := by
  induction run with
  | fresh => exact fresh
  | @act s a onward _ ih => exact (steps_act s a onward).keep step here (ih (alive_of_act here))

end LanguageBridge.Client.System
