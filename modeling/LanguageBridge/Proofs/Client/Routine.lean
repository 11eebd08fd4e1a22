import LanguageBridge.Proofs.Client.Abandoned
import LanguageBridge.Proofs.Client.Queues
import LanguageBridge.Proofs.Session.Replies

/-!
# What goes on beside handshakes

A handshake is made of three things: a connector that opens a connection, an attempt that runs, and
a reader that hands it the reply.  Everything else that happens is `System.Routine`: it brings no
reply and nothing new about a server, it lets attempts end or start but never moves one on, it puts
no session into use, and of its own accord it sends on the session in use only, and nothing but
`Message.Everyday` messages there.

What a connection carries of the client's own accord (`Connection.said`) are its frames without
the acknowledgements, which a reader sends whenever the server asks for something.

## Main results

* `Message.Everyday` lists the messages of a session that is in use.  The greeting and the end of
  the handshake are missing from it, which is the point.
* `Connection.Routine used` is the relation on one connection.  The proposition `used` stands for
  its session being in use at the start; without it nothing may be said.
* `System.routine_act`: every action is routine, except that a connector opens a connection, an
  attempt runs, or a reader runs.

Lemmas extend `Routine s t` by one function applied to `t`, as those on queues do, so a proof
follows the body of the function call by call.
-/

namespace LanguageBridge

open Editor (Feature)

namespace Message

/-- The messages of a session that is in use. -/
inductive Everyday : Message → Prop
  | opening (uri languageId text : String) : Everyday (didOpen uri languageId text)
  | asking (id : Nat) (f : Feature) (params : Json) : Everyday (request id f.method params)
  | configuring (settings : Json) : Everyday (settingsChanged settings)

end Message

namespace Client

/-- The messages that were ever queued on a connection of the client's own accord. -/
def Connection.said (k : Connection) : List Message := k.link.frames.filter Message.isOwn

namespace Connection

variable {k k' k'' : Connection}

/-- A calm step tells nothing new about the server, whatever would count as news. -/
theorem Calm.informed {news : Json → Prop} (calm : Calm k k') :
    k.session.Informed news k'.session :=
  fun usable => .inr (.inl ⟨calm.usable usable, calm.capabilities⟩)

/-- Acknowledgements are told from the rest by their form, so equal frames are equally said. -/
theorem said_of_frames (frames : k'.link.frames = k.link.frames) : k'.said = k.said := by
  rw [said, said, frames]

/-- A message sent. -/
theorem said_of_send {session : Session} {link : Link Message} {m : Message}
    (sent : k.link.send m = .ok link) :
    ({ k with session, link } : Connection).said = k.said ++ [m].filter Message.isOwn := by
  rw [said, said, Link.send_eq sent]
  show ((k.link.queued ++ [Outbound.frame m]).filterMap Outbound.frame?).filter Message.isOwn = _
  rw [List.filterMap_append, List.filter_append]
  rfl

/-- A connection that has gone on without a reply and without anything new about its server, and on
which nothing was said but everyday messages, and those only if its session was in use. -/
structure Routine (used : Prop) (k k' : Connection) : Prop where
  said : ∃ more, k'.said = k.said ++ more ∧ (∀ m ∈ more, m.Everyday) ∧ (more ≠ [] → used)
  replies : ∀ id reply, k'.session.Replied id reply → k.session.Replied id reply
  informed : k.session.Informed (fun _ => False) k'.session

namespace Routine

variable {used : Prop}

/-- The form for steps that say nothing: no reply, no news. -/
theorem of_said (said : k'.said = k.said)
    (replies : ∀ id reply, k'.session.Replied id reply → k.session.Replied id reply)
    (informed : k.session.Informed (fun _ => False) k'.session) : Routine used k k' :=
  ⟨⟨[], said.trans (List.append_nil _).symm, nofun, fun some => absurd rfl some⟩, replies, informed⟩

/-- Nothing said, and the same session. -/
theorem of_link (said : k'.said = k.said) (session : k'.session = k.session) : Routine used k k' :=
  .of_said said (fun _ _ there => session ▸ there) (session ▸ .refl _)

@[refl] theorem refl (k : Connection) : Routine used k k := .of_link rfl rfl

theorem of_calm (calm : Calm k k') : Routine used k k' :=
  .of_said (said_of_frames calm.frames) calm.replies calm.informed

/-- What is said in two stretches is said in order.  If something is said in the later one, the
session was in use then, and so it was before. -/
theorem trans {later : Prop} (first : Routine used k k') (second : Routine later k' k'')
    (sooner : later → used) : Routine used k k'' := by
  obtain ⟨more, said, everyday, since⟩ := first.said
  obtain ⟨more', said', everyday', since'⟩ := second.said
  refine ⟨⟨more ++ more', ?_, fun m mem => ?_, fun some => ?_⟩, fun id reply there => ?_,
    first.informed.trans second.informed⟩
  · rw [said', said, List.append_assoc]
  · exact (List.mem_append.1 mem).elim (everyday m) (everyday' m)
  · by_cases none : more = []
    · exact sooner (since' fun none' => some (by rw [none, none', List.append_nil]))
    · exact since none
  · exact first.replies id reply (second.replies id reply there)

/-- An everyday message sent on a session in use. -/
theorem of_send {session : Session} {link : Link Message} {m : Message} (everyday : m.Everyday)
    (sent : k.link.send m = .ok link) (here : used)
    (replies : ∀ id reply, session.Replied id reply → k.session.Replied id reply)
    (informed : k.session.Informed (fun _ => False) session) :
    Routine used k { k with session, link } := by
  refine ⟨⟨[m].filter Message.isOwn, said_of_send sent, fun m' mem => ?_, fun _ => here⟩, replies,
    informed⟩
  rw [List.mem_singleton.1 (List.mem_filter.1 mem).1]
  exact everyday

end Routine
end Connection

namespace System

variable {s t u : System}

/-- A system in which nothing has happened but what goes on beside handshakes. -/
structure Routine (s t : System) : Prop where
  length : t.connections.length = s.connections.length
  attempts : ∀ a ∈ t.attempts, a ∈ s.attempts ∨ a.phase = .starting
  current : ∀ c, t.state.current = some c → s.state.current = some c
  connection : ∀ c, (s.connection c).Routine (s.state.current = some c) (t.connection c)

namespace Routine

@[refl] theorem refl (s : System) : Routine s s :=
  ⟨rfl, fun _ => .inl, fun _ => id, fun _ => .refl _⟩

/-- Routine goes on; an attempt that has just started in the first stretch is still starting, or
over. -/
theorem trans (first : Routine s t) (second : Routine t u) : Routine s u where
  length := second.length.trans first.length
  attempts := by
    intro a mem
    rcases second.attempts a mem with before | starting
    · exact first.attempts a before
    · exact .inr starting
  current := fun c used => first.current c (second.current c used)
  connection := fun c => (first.connection c).trans (second.connection c) (first.current c)

/-- Whatever else changes beside the connections. -/
theorem narrow (routine : Routine s t) (connections : u.connections = t.connections)
    (attempts : ∀ a ∈ u.attempts, a ∈ t.attempts ∨ a.phase = .starting)
    (current : ∀ c, u.state.current = some c → t.state.current = some c) : Routine s u := by
  refine routine.trans ⟨by rw [connections], attempts, current, fun c => ?_⟩
  have own : u.connection c = t.connection c := by
    rw [System.connection, connections, ← System.connection]
  rw [own]

/-- Whatever else has changed, if connections, attempts and the session in use have not. -/
theorem same (routine : Routine s t) (connections : u.connections = t.connections)
    (attempts : u.attempts = t.attempts) (current : u.state.current = t.state.current) :
    Routine s u :=
  routine.narrow connections (fun _ mem => .inl (attempts ▸ mem)) fun _ used => current ▸ used

theorem calm (routine : Routine s t) (calm : Calm t u) : Routine s u :=
  routine.trans ⟨calm.length, fun _ mem => .inl (calm.attempts ▸ mem),
    fun _ used => calm.state ▸ used, fun c => .of_calm (calm.connection c)⟩

/-- A change of one connection. -/
theorem update (routine : Routine s t) {c : Nat} {f : Connection → Connection}
    (own : (t.connection c).Routine (t.state.current = some c) (f (t.connection c))) :
    Routine s (t.update c f) := by
  refine routine.trans ⟨length_update t c f, fun _ => .inl, fun _ => id, fun d => ?_⟩
  rw [connection_update_eq]
  split
  · rename_i same
    rw [same.1]
    exact own
  · exact .refl _

theorem exchange (routine : Routine s t) {c : Nat} {session : Session} {link : Link Message}
    (own : (t.connection c).Routine (t.state.current = some c)
      { t.connection c with session, link }) : Routine s (t.exchange c session link) := by
  unfold System.exchange
  simp only []
  split
  · exact (routine.update own).calm (.wake _ _)
  · exact routine.update own

/-! ## Stopping and reconnecting

None of these sends anything.  What has to be watched is the session in use: it may be given up,
but it must not change from one connection to another. -/

theorem cancelRetry (routine : Routine s t) : Routine s t.cancelRetry := by
  unfold System.cancelRetry stopPause
  split <;> exact routine.same rfl rfl rfl

/-- Health checks stopped concern no connection either. -/
theorem stopChecks (routine : Routine s t) : Routine s t.stopChecks := by
  unfold System.stopChecks
  split
  · exact routine
  · exact routine.same rfl rfl rfl

/-- An attempt ends: the others stay, and its session is disposed of calmly. -/
theorem endAttempt (routine : Routine s t) (generation : Nat) :
    Routine s (t.endAttempt generation) := by
  unfold System.endAttempt
  split
  · exact routine
  · refine Routine.calm ?_ (.leave _ _)
    exact routine.narrow rfl (fun _ mem => .inl (List.mem_filter.1 mem).1) fun _ => id

theorem stopAttempt (routine : Routine s t) : Routine s t.stopAttempt := by
  unfold System.stopAttempt
  split
  · exact routine
  · refine (routine.endAttempt _).same rfl rfl ?_
    rw [state_endAttempt]

/-- The session in use given up. -/
theorem unused (routine : Routine s t) (connections : u.connections = t.connections)
    (attempts : u.attempts = t.attempts) (none : u.state.current = none) : Routine s u :=
  routine.narrow connections (fun _ mem => .inl (attempts ▸ mem))
    fun _ used => nomatch none.symm.trans used

theorem giveUp (routine : Routine s t) : Routine s t.giveUp := by
  refine Routine.calm (Routine.calm ?_ (.disposeAny _ t.state.current))
    (.closeAny _ t.state.socket)
  exact routine.unused rfl rfl rfl

/-- A retry that is armed waits before anything is said. -/
theorem armRetry (routine : Routine s t) (how : Retry → Retry.Armed × Retry) :
    Routine s (t.armRetry how) := by
  unfold System.armRetry stopPause
  split <;> exact routine.same rfl rfl rfl

/-- A forced reconnect is a retry like others here. -/
theorem reconnectSoon (routine : Routine s t) : Routine s t.reconnectSoon := by
  unfold System.reconnectSoon
  split
  · exact routine
  · exact routine.armRetry _

/-- A connection that is lost is not in use afterwards. -/
theorem lost (routine : Routine s t) (generation : Nat) : Routine s (t.lost generation) := by
  have cleared : Routine s { t with state := { t.state with current := none, socket := none } } :=
    routine.unused rfl rfl rfl
  have idle := cleared.stopChecks
  unfold System.lost
  split
  · exact routine
  · refine Routine.calm ?_ (.disposeAny _ t.state.current)
    split
    · exact idle
    · exact idle.armRetry _

/-- Connecting stops the old and starts an attempt, which has not been anywhere yet. -/
theorem connect (routine : Routine s t) (endpoint : String) : Routine s (t.connect endpoint) := by
  have renamed : Routine s { t with state := { t.state with
      generation := t.state.generation + 1, endpoint := some endpoint } } :=
    routine.same rfl rfl rfl
  unfold System.connect
  split
  · exact routine
  · refine renamed.cancelRetry.stopAttempt.stopChecks.giveUp.narrow rfl (fun a mem => ?_)
      fun _ => id
    -- The only attempt that begins has not done anything.
    rcases List.mem_append.1 mem with before | own
    · exact .inl before
    · rw [List.mem_singleton.1 own]
      exact .inr rfl

/-- Another endpoint is routine up to its first attempt. -/
theorem setEndpoint (routine : Routine s t) (endpoint : String) :
    Routine s (t.setEndpoint endpoint) := by
  unfold System.setEndpoint
  split
  · exact routine
  · refine Routine.connect (Routine.calm ?_ (.disposeAny _ t.state.current)) endpoint
    exact routine.cancelRetry.unused rfl rfl rfl

/-- A client that is destroyed says goodbye to nobody. -/
theorem destroy (routine : Routine s t) : Routine s t.destroy := by
  have ended : Routine s { t with state := { t.state with
      destroyed := true, generation := t.state.generation + 1, observer := none } } :=
    routine.same rfl rfl rfl
  unfold System.destroy
  split
  · exact routine
  · exact Routine.giveUp (ended.cancelRetry.stopAttempt.stopChecks.same rfl rfl rfl)

/-- A client that is let go leaves its connections as they are. -/
theorem release (routine : Routine s t) : Routine s t.release := by
  unfold System.release
  split
  · exact routine
  · exact routine.cancelRetry.stopChecks.unused rfl rfl rfl

/-- Recovery may vacate the place of the session in use, and never fills it. -/
theorem recover (routine : Routine s t) (c : Nat) : Routine s (t.recover c) := by
  unfold System.recover
  split
  · split
    · refine Routine.reconnectSoon (Routine.calm ?_ (.dispose _ c))
      exact routine.unused rfl rfl rfl
    · exact routine
  · split
    · exact routine.reconnectSoon
    · exact routine

/-! ## Validity checks

Whoever asks for the session in use may drop it.  Health checks, settings and whoever only wants
to know do the same here, and settings that go out are an everyday message. -/

theorem requestFailed (routine : Routine s t) (c : Nat) (e : Failure) :
    Routine s (t.requestFailed c e) := by
  unfold System.requestFailed
  split
  · exact routine.recover c
  · exact routine

/-- Asking whether there is a connection may drop a stale session. -/
theorem isConnected (routine : Routine s t) : Routine s t.isConnected.2 := by
  unfold System.isConnected
  rcases validSession_cases t with ⟨-, valid⟩ | ⟨c, -, -, valid⟩ | ⟨c, e, -, -, valid⟩ <;> rw [valid]
  · exact routine
  · exact routine
  · exact routine.recover c

/-- A health check looks at the session in use and says nothing on it. -/
theorem checkHealth (routine : Routine s t) : Routine s t.checkHealth := by
  unfold System.checkHealth
  rcases validSession_cases t with ⟨-, valid⟩ | ⟨c, -, -, valid⟩ | ⟨c, e, -, -, valid⟩ <;> rw [valid]
  · exact routine
  · simp only []
    split
    · exact routine
    · exact routine.reconnectSoon
  · exact routine.recover c

/-- An everyday message on the session in use. -/
theorem notify (routine : Routine s t) {c : Nat} {m : Message} (everyday : m.Everyday)
    (current : t.state.current = some c) : Routine s (t.notify c m).2 := by
  rcases notify_cases t c m with ⟨link, sent, told⟩ | ⟨e, -, told⟩ <;> rw [told]
  · exact routine.exchange
      (.of_send everyday (Session.notify_eq sent) current (fun _ _ => id) (.refl _))
  · exact routine.requestFailed c e

/-- Settings go to the session in use, and they are an everyday message. -/
theorem updateSettings (routine : Routine s t) (settings : Json) :
    Routine s (t.updateSettings settings).2 := by
  unfold System.updateSettings
  split
  · exact routine
  · rcases validSession_cases t with ⟨-, valid⟩ | ⟨c, current, -, valid⟩ | ⟨c, e, -, -, valid⟩ <;>
      rw [valid]
    · exact routine
    · exact routine.notify (.configuring settings) current
    · exact routine.recover c

/-! ## Pauses and health checks

A pause that is over starts an attempt, and the attempt has not been anywhere: it is `starting`,
which is the phase that a routine step may add. -/

theorem endPause (routine : Routine s t) (token : Nat) : Routine s (t.endPause token) := by
  have «over» : Routine s { t with pauses := t.pauses.filter (·.token ≠ token) } :=
    routine.same rfl rfl rfl
  unfold System.endPause
  simp only []
  split
  · exact «over»
  · split
    · exact «over»
    · split
      · exact «over».same rfl rfl rfl
      · refine Routine.connect ?_ _
        exact «over».same rfl rfl rfl

/-- A pause that has not begun takes its time first. -/
theorem runPause (routine : Routine s t) (token : Nat) : Routine s (t.runPause token) := by
  unfold System.runPause
  split
  · exact routine
  · split
    · split
      · exact routine.endPause token
      · exact routine
    · simp only []
      split
      · exact routine.endPause token
      · exact routine.same rfl rfl rfl

/-- A series of checks is routine, whatever it finds. -/
theorem runChecks (routine : Routine s t) (id : Nat) : Routine s (t.runChecks id) := by
  unfold System.runChecks
  split
  · exact routine
  · split
    · exact routine.same rfl rfl rfl
    · split
      · exact routine
      · split
        · exact routine.same rfl rfl rfl
        · exact routine.checkHealth.same rfl rfl rfl

/-! ## Attempts that end

The end of an attempt belongs to the routine although its other steps do not: no message goes out,
and what is left on its connection is disposed of. -/

theorem finishAttempt (routine : Routine s t) (generation : Nat) :
    Routine s (t.finishAttempt generation) := by
  unfold System.finishAttempt
  refine Routine.endAttempt ?_ generation
  split
  · exact routine.lost generation
  · exact routine

theorem connectorFailed (routine : Routine s t) (generation : Nat) :
    Routine s (t.connectorFailed generation) := by
  unfold System.connectorFailed
  split
  · exact routine
  · exact routine.finishAttempt generation

/-! ## Requests

The requests of the editor are where everyday messages come from.  A text that is opened and the
request behind it go out on the session in use, and whatever comes of them is said to the editor. -/

/-- Whoever asked gets the answer, and a client that nobody else holds is let go. -/
theorem finishRequest (routine : Routine s t) (r : Request) (answer : Editor.Answer) :
    Routine s (t.finishRequest r answer) := by
  have answered : Routine s (({ t with
      requests := t.requests.filter (·.number ≠ r.number) }.forget (.request r.number)).deliver
        r.origin answer) := by
    unfold System.deliver
    split <;> exact routine.same rfl rfl rfl
  exact answered.release

/-- What follows from the outcome of a request is said to the editor, not to the server. -/
theorem settleRequest (routine : Routine s t) (r : Request) (c : Nat) (lines : UInt32)
    (outcome : Outcome) : Routine s (t.settleRequest r c lines outcome) := by
  have concluded : Routine s (t.conclude r c lines outcome).2 := by
    unfold System.conclude
    split
    · exact routine.requestFailed c _
    · split
      · exact routine.requestFailed c _
      · unfold observe
        split
        · exact routine
        · exact routine.same rfl rfl rfl
        · exact routine.same rfl rfl rfl
      · exact routine
  exact concluded.finishRequest r _

/-- A request for a feature is an everyday message of the session in use. -/
theorem sendRequest (routine : Routine s t) (r : Request) {c : Nat} (lines : UInt32)
    (current : t.state.current = some c) : Routine s (t.sendRequest r c lines) := by
  rcases called : (t.connection c).session.call (t.connection c).link t.now
    (t.connection c).session.requestTimeout r.feature.method
    (Message.placeParams t.state.options.documentUri (Preamble.toServer lines r.place))
    with ⟨call, session, link⟩
  have replies : ∀ id reply, session.Replied id reply →
      (t.connection c).session.Replied id reply := fun _ _ there => there.of_call called
  have spoke : Routine s (t.exchange c session link) := by
    refine routine.exchange ?_
    rcases Session.sent_of_call called with ⟨same, -⟩ | ⟨sent, -⟩
    · exact .of_said (Connection.said_of_frames (congrArg Link.frames same)) replies (.of_call called)
    · exact .of_send (.asking _ r.feature _) sent current replies (.of_call called)
  unfold System.sendRequest
  simp only [called]
  split
  · exact spoke.settleRequest r c lines _
  · exact spoke.same rfl rfl rfl

/-- A text is opened on the session in use, right before its request. -/
theorem openDocument (routine : Routine s t) (r : Request) {c : Nat}
    (current : t.state.current = some c) : Routine s (t.openDocument r c) := by
  have told := routine.notify (.opening t.state.options.documentUri
    (t.connection c).session.languageId (Preamble.inFrontOf t.state.preamble r.text)) current
  unfold System.openDocument
  simp only []
  rcases notify_cases t c (.didOpen t.state.options.documentUri
    (t.connection c).session.languageId (Preamble.inFrontOf t.state.preamble r.text))
    with ⟨link, -, sent⟩ | ⟨e, -, failed⟩
  · rw [sent] at told ⊢
    refine told.sendRequest r _ ?_
    rw [state_exchange]
    exact current
  · rw [failed] at told ⊢
    exact told.finishRequest r _

/-- A request that finds no valid session says nothing. -/
theorem startRequest (routine : Routine s t) (r : Request) : Routine s (t.startRequest r) := by
  unfold System.startRequest
  split
  · exact routine.finishRequest r _
  · rcases validSession_cases t with ⟨-, valid⟩ | ⟨c, current, -, valid⟩ | ⟨c, e, -, -, valid⟩ <;>
      rw [valid]
    · exact routine.finishRequest r _
    · simp only []
      split
      · exact routine.openDocument r current
      · exact routine.finishRequest r _
    · exact (routine.recover c).finishRequest r _

/-- A request is routine, at whatever stage it runs. -/
theorem runRequest (routine : Routine s t) (number : Nat) : Routine s (t.runRequest number) := by
  unfold System.runRequest
  split
  · exact routine
  · split
    · exact routine.startRequest _
    · rename_i r _ _ c id due lines _
      rcases resumed : (t.connection c).session.resume t.now id due with ⟨call, session⟩
      have looked := routine.calm (.resume resumed)
      simp only [resumed]
      split
      · exact looked.settleRequest r c lines _
      · exact looked

/-- The peer moves a socket; whatever it moves to, the session is the same. -/
theorem peerState (routine : Routine s t) (c : Nat) (next : SocketState) :
    Routine s (t.peerState c next) := by
  obtain ⟨agenda, connections, moved, length, same⟩ := peerState_eq t c next
  rw [moved]
  refine routine.trans ⟨length, fun _ => .inl, fun _ => id, fun d => ?_⟩
  exact .of_link (Connection.said_of_frames (same d).frames) (same d).session

end Routine

/-! ## Actions

Three kinds of actions are left out, since they are what handshakes are made of: the connector
that opens a connection, an attempt that runs, and a reader. -/

/-- Whatever happens is routine, unless a connector opens a connection, an attempt runs, or a reader
does. -/
theorem routine_act (s : System) {a : Action} (unopened : ∀ g state, a ≠ .connectorOpened g state)
    (resting : ∀ g, a ≠ .run (.attempt g)) (unread : ∀ c, a ≠ .run (.reader c)) :
    Routine s (s.act a) := by
  have routine : Routine s s := .refl s
  cases a with
  | connect endpoint => exact routine.connect endpoint
  | setEndpoint endpoint => exact routine.setEndpoint endpoint
  | destroy => exact routine.destroy
  | checkConnected => exact routine.isConnected
  | updateSettings settings => exact routine.updateSettings settings
  | setPreamble preamble => exact routine.same rfl rfl rfl
  | setSnippets snippets => exact routine.same rfl rfl rfl
  | setObserver observer => exact routine.same rfl rfl rfl
  | ask origin feature target text place => exact routine.same rfl rfl rfl
  | disown => exact Routine.release (t := { s with owned := false }) (routine.same rfl rfl rfl)
  | run job =>
      cases job with
      | attempt generation => exact absurd rfl (resting generation)
      | reader c => exact absurd rfl (unread c)
      | pause token => exact routine.runPause token
      | checks id => exact routine.runChecks id
      | request number => exact routine.runRequest number
      | peer c => exact routine
      | parcel number => exact routine
  | wait ms => exact routine.same rfl rfl rfl
  | connectorFailed generation => exact routine.connectorFailed generation
  | connectorOpened generation state => exact absurd rfl (unopened generation state)
  | peerState c next => exact routine.peerState c next
  | peerFeed c text => exact routine.calm (.peerFeed s c text)
  | peerEndFeed c => exact routine.calm (.peerEndFeed s c)
  | peerGone c => exact routine.calm (.peerGone s c)
  | peerTake c => exact routine.calm (.peerTake s c)

end System
end Client
end LanguageBridge
