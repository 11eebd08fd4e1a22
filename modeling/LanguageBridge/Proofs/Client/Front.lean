import LanguageBridge.Client.Background
import LanguageBridge.Proofs.Client.Operations

/-!
# What faces the outside

A system faces the outside with who owns it, the requests that were made and have not been
answered, and what has come out so far: events, observations, answers.  `System.front` is all of
that.  Nothing that the client does to keep its connection touches it, so whether somebody still
holds the client (`System.alive`) changes only where requests are made, staged and answered or the
owner lets go.

## Two ways to say it

* `System.Backstage` is a relation between two states: whatever went on between them, the front is
  the same.  It is reflexive and transitive, so a long function of the client is followed call by
  call, and it takes in what other modules say about steps (`Backstage.talk`, `Backstage.calm`).
* The equations `front_…` say the same of one function at a time.  They are simp lemmas, since most
  proofs meet a system in the middle of a function and only want the front of what it is applied to.

An equation follows from the relation wherever the function is one of the relation's lemmas.  The
functions that split on where an attempt or a series stands (`runAttempt`, `runChecks`) are followed
by their own cases instead.
-/

namespace LanguageBridge.Client.System

/-- What a system shows to the outside, and who holds its client. -/
structure Front where
  owned : Bool
  requests : List Request
  asked : Nat
  events : List Host.Event
  observed : List Editor.SignatureHelp
  answers : List (Nat × Editor.Answer)

/-- The front of a system. -/
def front (s : System) : Front := ⟨s.owned, s.requests, s.asked, s.events, s.observed, s.answers⟩

variable {s t : System}

/-- Whether the client is still there is told by its front: who owns it, and whether a request
waits on a session. -/
theorem alive_of_front (same : t.front = s.front) : t.alive = s.alive := by
  have owned : t.owned = s.owned := congrArg Front.owned same
  have requests : t.requests = s.requests := congrArg Front.requests same
  rw [alive, alive, owned, requests]

/-- A calm step adds events to nothing and answers nobody. -/
theorem Calm.front (calm : Calm s t) : t.front = s.front := by rw [calm.rest]; rfl

/-! ## Behind the scenes

The relation comes first, with its lemmas in the order in which the client calls its functions:
what stops, what retries and connects, what checks. -/

/-- What a client does to keep its connection, short of installing a session: connections and what
runs for them change, and what the client knows of them.  Its configuration, its providers and what
faces the outside do not. -/
structure Backstage (s t : System) : Prop where
  rest : t = { s with
    agenda := t.agenda, connections := t.connections, attempts := t.attempts
    pauses := t.pauses, series := t.series, sessions := t.sessions
    state := { s.state with
      endpoint := t.state.endpoint, generation := t.state.generation, socket := t.state.socket
      current := t.state.current, retry := t.state.retry, checks := t.state.checks
      task := t.state.task } }

namespace Backstage

variable {u : System}

@[refl] theorem refl (s : System) : Backstage s s := ⟨rfl⟩

/-- One undisturbed stretch after another is an undisturbed stretch. -/
theorem trans (first : Backstage s t) (second : Backstage t u) : Backstage s u where
  rest := by rw [second.rest, first.rest]

/-- The relation holds exactly what the equation of fronts says. -/
theorem front (backstage : Backstage s t) : t.front = s.front := by rw [backstage.rest]; rfl

/-- Talk with a server is no answer: that is given where the request is settled. -/
theorem talk (talk : Talk s t) : Backstage s t where
  rest := by rw [talk.rest]

theorem calm (calm : Calm s t) : Backstage s t := .talk calm.talk

/-- Frames that are queued for a peer are not yet seen outside. -/
theorem exchange (s : System) (c : Nat) (session : Session) (link : Link Message) :
    Backstage s (s.exchange c session link) where
  rest := by
    unfold System.exchange
    simp only []
    split <;> rfl

/-! ### Stopping -/

/-- Giving up a pause takes a job off the agenda and nothing else off the stage. -/
theorem stopPause (s : System) : Backstage s s.stopPause := by
  unfold System.stopPause
  split <;> exact ⟨rfl⟩

theorem cancelRetry (s : System) : Backstage s s.cancelRetry := (stopPause s).trans ⟨rfl⟩

theorem stopChecks (s : System) : Backstage s s.stopChecks := by
  unfold System.stopChecks
  split <;> exact ⟨rfl⟩

/-- An attempt that ends disposes of its session.  The requests that wait on it are made ready,
but none of them is answered yet. -/
theorem endAttempt (s : System) (generation : Nat) : Backstage s (s.endAttempt generation) := by
  unfold System.endAttempt
  split
  · exact refl s
  · exact Backstage.trans ⟨rfl⟩ (calm (.leave _ _))

theorem stopAttempt (s : System) : Backstage s s.stopAttempt := by
  unfold System.stopAttempt
  split
  · exact refl s
  · rename_i generation _
    refine ⟨?_⟩
    rw [(endAttempt s generation).rest]

/-- The session and the socket in use are given up without a word to whoever waits. -/
theorem giveUp (s : System) : Backstage s s.giveUp :=
  Backstage.trans ⟨rfl⟩ (calm ((Calm.disposeAny _ _).trans (.closeAny _ _)))

/-! ### Retrying and connecting -/

/-- A retry is armed out of sight, with whatever delay. -/
theorem armRetry (s : System) (how : Retry → Retry.Armed × Retry) : Backstage s (s.armRetry how) :=
  (stopPause s).trans ⟨rfl⟩

theorem reconnectSoon (s : System) : Backstage s s.reconnectSoon := by
  unfold System.reconnectSoon
  split
  · exact refl s
  · exact armRetry s _

/-- A lost connection fails the requests on it; they hear of it when they run. -/
theorem lost (s : System) (generation : Nat) : Backstage s (s.lost generation) := by
  unfold System.lost
  split
  · exact refl s
  · refine Backstage.trans ?_ (calm (.disposeAny _ _))
    have stopped := Backstage.trans (s := s) ⟨rfl⟩
      (stopChecks { s with state := { s.state with current := none, socket := none } })
    split
    · exact stopped
    · exact stopped.trans (armRetry _ _)

/-- Whether an attempt that is over arms a retry depends on who holds the client, but either way
nothing comes out. -/
theorem finishAttempt (s : System) (generation : Nat) : Backstage s (s.finishAttempt generation) := by
  unfold System.finishAttempt
  refine Backstage.trans ?_ (endAttempt _ generation)
  split
  · exact lost s generation
  · exact refl s

/-- A new connection supersedes the old one behind the scenes. -/
theorem connect (s : System) (endpoint : String) : Backstage s (s.connect endpoint) := by
  unfold System.connect
  split
  · exact refl s
  · let r := { s with state := { s.state with
      generation := s.state.generation + 1, endpoint := some endpoint } }
    have begun : Backstage s r := ⟨rfl⟩
    exact ((((begun.trans (cancelRetry r)).trans (stopAttempt _)).trans (stopChecks _)).trans
      (giveUp _)).trans ⟨rfl⟩

theorem setEndpoint (s : System) (endpoint : String) : Backstage s (s.setEndpoint endpoint) := by
  unfold System.setEndpoint
  split
  · exact refl s
  · refine Backstage.trans ?_ (connect _ endpoint)
    exact ((cancelRetry s).trans ⟨rfl⟩).trans (calm (.disposeAny _ _))

/-- Recovery disposes of a stale session at most, and arms a retry. -/
theorem recover (s : System) (c : Nat) : Backstage s (s.recover c) := by
  unfold System.recover
  split
  · split
    · refine Backstage.trans ?_ (reconnectSoon _)
      exact Backstage.trans ⟨rfl⟩ (calm (.dispose _ c))
    · exact refl s
  · split
    · exact reconnectSoon s
    · exact refl s

theorem endPause (s : System) (token : Nat) : Backstage s (s.endPause token) := by
  unfold System.endPause
  simp only []
  split
  · exact ⟨rfl⟩
  · split
    · exact ⟨rfl⟩
    · split
      · exact ⟨rfl⟩
      · exact Backstage.trans ⟨rfl⟩ (connect _ _)

/-! ### Validity checks -/

/-- A failure is passed on as an answer elsewhere; here it only decides about recovery. -/
theorem requestFailed (s : System) (c : Nat) (e : Failure) : Backstage s (s.requestFailed c e) := by
  unfold System.requestFailed
  split
  · exact recover s c
  · exact refl s

/-- Looking for a valid session drops a stale one out of sight. -/
theorem validSession (s : System) : Backstage s s.validSession.2 := by
  unfold System.validSession
  split
  · exact refl s
  · split
    · exact refl s
    · exact recover s _

end Backstage

@[simp] theorem front_cancelRetry (s : System) : s.cancelRetry.front = s.front :=
  (Backstage.cancelRetry s).front

@[simp] theorem front_stopChecks (s : System) : s.stopChecks.front = s.front :=
  (Backstage.stopChecks s).front

@[simp] theorem front_endAttempt (s : System) (generation : Nat) :
    (s.endAttempt generation).front = s.front := (Backstage.endAttempt s generation).front

@[simp] theorem front_reconnectSoon (s : System) : s.reconnectSoon.front = s.front :=
  (Backstage.reconnectSoon s).front

@[simp] theorem front_finishAttempt (s : System) (generation : Nat) :
    (s.finishAttempt generation).front = s.front := (Backstage.finishAttempt s generation).front

@[simp] theorem front_connect (s : System) (endpoint : String) :
    (s.connect endpoint).front = s.front := (Backstage.connect s endpoint).front

@[simp] theorem front_setEndpoint (s : System) (endpoint : String) :
    (s.setEndpoint endpoint).front = s.front := (Backstage.setEndpoint s endpoint).front

/-- The end of a client takes its providers away.  Requests that are under way go on until they
fail. -/
@[simp] theorem front_destroy (s : System) : s.destroy.front = s.front := by
  unfold destroy
  split
  · rfl
  · rw [(Backstage.giveUp _).front]
    refine Eq.trans (b := (System.stopChecks _).front) rfl ?_
    rw [front_stopChecks, (Backstage.stopAttempt _).front, front_cancelRetry]
    rfl

@[simp] theorem front_recover (s : System) (c : Nat) : (s.recover c).front = s.front :=
  (Backstage.recover s c).front

@[simp] theorem front_endPause (s : System) (token : Nat) :
    (s.endPause token).front = s.front := (Backstage.endPause s token).front

/-! ## Validity checks

From here on the same is said in equations, of whole functions. -/

theorem front_requestFailed (s : System) (c : Nat) (e : Failure) :
    (s.requestFailed c e).front = s.front := (Backstage.requestFailed s c e).front

theorem front_validSession (s : System) : s.validSession.2.front = s.front :=
  (Backstage.validSession s).front

theorem front_isConnected (s : System) : s.isConnected.2.front = s.front := by
  have same := front_validSession s
  unfold isConnected
  split
  · rename_i valid
    rwa [valid] at same
  · rename_i valid
    rwa [valid] at same

theorem front_checkHealth (s : System) : s.checkHealth.front = s.front := by
  have same := front_validSession s
  unfold checkHealth
  split
  · rename_i valid
    rwa [valid] at same
  · rename_i valid
    rw [valid] at same
    split
    · exact same
    · exact (front_reconnectSoon _).trans same

/-- A pause begun and a pause ended, both leave the front alone. -/
theorem front_runPause (s : System) (token : Nat) : (s.runPause token).front = s.front := by
  unfold runPause
  split
  · rfl
  · split
    · split
      · exact front_endPause s token
      · rfl
    · simp only []
      split
      · exact front_endPause s token
      · rfl

/-- A series begun, stopped or checked again leaves the front alone. -/
theorem front_runChecks (s : System) (id : Nat) : (s.runChecks id).front = s.front := by
  unfold runChecks
  split
  · rfl
  · split
    · rfl
    · split
      · rfl
      · split
        · rfl
        · exact front_checkHealth s

/-! ## Attempts

An attempt may install its session, which registers providers.  The registry is what the *editor*
looks into before it asks; the front is what comes out, so an attempt leaves it alone in every
phase. -/

@[simp] theorem front_exchange (s : System) (c : Nat) (session : Session) (link : Link Message) :
    (s.exchange c session link).front = s.front := (Backstage.exchange s c session link).front

/-- A new session shows in the registry of providers, which is no part of the front. -/
@[simp] theorem front_install (s : System) (generation c : Nat) :
    (s.install generation c).front = s.front := by
  unfold install
  refine Eq.trans (b := (System.stopChecks _).front) rfl ?_
  rw [front_stopChecks]
  exact front_cancelRetry s

/-- However a handshake ends, nobody outside is told. -/
@[simp] theorem front_finishHandshake (s : System) (generation c : Nat) (outcome : Outcome) :
    (s.finishHandshake generation c outcome).front = s.front := by
  unfold finishHandshake
  simp only []
  split
  · split
    · rw [front_install, front_exchange]
      rfl
    · rw [front_endAttempt, (Calm.closeSocket _ _).front, (Calm.dispose _ _).front, front_exchange]
      rfl
  · rw [front_finishAttempt, (Calm.closeSocket _ _).front, (Calm.dispose _ _).front, front_exchange]
    rfl

@[simp] theorem front_startSession (s : System) (generation c : Nat) :
    (s.startSession generation c).front = s.front := by
  unfold startSession
  simp only []
  split
  · rw [front_finishHandshake, front_exchange]
    rfl
  · refine Eq.trans (b := (System.exchange _ _ _ _).front) rfl ?_
    rw [front_exchange]
    rfl

@[simp] theorem front_connectorFailed (s : System) (generation : Nat) :
    (s.connectorFailed generation).front = s.front := by
  unfold connectorFailed
  split
  · rfl
  · exact front_finishAttempt s generation

/-- A connection that comes too late is closed again, and one that is wanted is greeted: neither
is seen outside. -/
@[simp] theorem front_connectorOpened (s : System) (generation : Nat) (state : SocketState) :
    (s.connectorOpened generation state).front = s.front := by
  unfold connectorOpened
  split
  · rfl
  · simp only []
    split
    · rw [front_startSession]
      rfl
    · rw [front_endAttempt]
      exact (Calm.closeSocket _ _).front

/-- An attempt runs its whole course without anything coming out. -/
@[simp] theorem front_runAttempt (s : System) (generation : Nat) :
    (s.runAttempt generation).front = s.front := by
  unfold runAttempt
  split
  · rfl
  · split
    · rfl
    · rfl
    · simp only []
      unfold greeted
      split
      · rw [front_finishHandshake]
        rfl
      · rfl
    · split
      · exact front_finishAttempt s generation
      · rfl

/-! ## Messages -/

/-- A notification that fails may have a stale session dropped, and no more. -/
theorem front_notify (s : System) (c : Nat) (m : Message) : (s.notify c m).2.front = s.front := by
  unfold notify
  simp only []
  split
  · exact front_requestFailed s c _
  · exact front_exchange s c _ _

theorem front_updateSettings (s : System) (settings : Json) :
    (s.updateSettings settings).2.front = s.front := by
  have same := front_validSession s
  unfold updateSettings
  split
  · rfl
  · split
    · rename_i valid
      rwa [valid] at same
    · rename_i valid
      rw [valid] at same
      exact (front_notify _ _ _).trans same

/-! ## Readers

A reader hands replies to sessions.  Nothing comes out by that: whoever has asked takes the reply
when it has its turn. -/

@[simp] theorem front_wakeAll (s : System) (js : List Job) : (s.wakeAll js).front = s.front :=
  (Calm.wakeAll s js).front

/-- A reader hands the replies to sessions; who waits for them takes them when it runs. -/
@[simp] theorem front_runReader (s : System) (c : Nat) : (s.runReader c).front = s.front := by
  unfold runReader
  simp only []
  split
  · rfl
  · split <;> simp only [front_wakeAll, front_exchange]

end LanguageBridge.Client.System
