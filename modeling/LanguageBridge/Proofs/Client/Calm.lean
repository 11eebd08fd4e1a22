import LanguageBridge.Client.Peer
import LanguageBridge.Client.Reconnect
import LanguageBridge.Proofs.Link.Frames

/-!
# Calm steps

Most of what goes on in a system concerns single connections: a caller stops waiting or collects an
answer, a session is disposed of, a socket is asked to close, a peer feeds a text or goes away.
None of that touches the client, its attempts, its pauses, its health checks or its requests, none
of it queues a frame or takes anything out of a queue, none of it brings a reply to whoever waits
for one or tells more about the server, and none of it brings back a session that was over.  A step
of this kind is *calm*, and the operations that many others are made of are shown here to be calm,
once and for all.

## Main definitions

* `Session.Replied`: the server has replied to a request, and the reply is there to be collected.
  Failures are told apart from it, since those the client can produce by itself.
* `Connection.Coherent`: texts are read and requests wait only as long as the session can be used.
  Being coherent is kept by calm steps rather than assumed of them.
* `Connection.Calm`, `System.Calm`: the two relations, reflexive and transitive.
* `Connection.Moved`: a peer may move a socket back to an earlier state, which is not calm; what
  remains true then is collected here.

## Why the relation has so many clauses

Each clause is there for one family of results: `queued` and `frames` for what connections carry,
`replies` and `capabilities` for handshakes, `disposed` and `coherent` for leaks, `rank` for sockets
that only go forward.  They are proved together because the same operations keep all of them,
so every operation of the client is looked into once and not once for each family.
-/

namespace LanguageBridge

namespace Session

/-! ## Sessions

What a caller does to a session: it looks for its answer, takes it, or gives up.  None of these
brings a reply, and none ends the session. -/

@[simp] theorem disposed_abandon (s : Session) (id : Nat) :
    (s.abandon id).disposed = s.disposed := rfl

@[simp] theorem disposed_collect (s : Session) (id : Nat) :
    (s.collect id).2.disposed = s.disposed := by
  unfold collect
  split <;> rfl

/-- An answer can be collected only after its request was settled. -/
@[simp] theorem pending_collect (s : Session) (id : Nat) :
    (s.collect id).2.pending = s.pending := by
  unfold collect
  split <;> rfl

/-- What is known of the server does not depend on who has collected what. -/
@[simp] theorem capabilities_collect (s : Session) (id : Nat) :
    (s.collect id).2.capabilities = s.capabilities := by
  unfold collect
  split <;> rfl

/-- A session that is over still knows what its server could do. -/
@[simp] theorem capabilities_dispose (s : Session) : s.dispose.capabilities = s.capabilities := by
  unfold dispose
  split <;> rfl

/-- Whether a caller goes on waiting or not, the session goes on. -/
@[simp] theorem disposed_resume (s : Session) (now id due : Nat) :
    (s.resume now id due).2.disposed = s.disposed := by
  have kept := disposed_collect s id
  unfold resume
  split
  · rename_i collected
    rwa [collected] at kept
  · rename_i collected
    rw [collected] at kept
    split
    · exact kept
    · exact kept

/-- A caller that looks for its answer learns nothing about the server. -/
@[simp] theorem capabilities_resume (s : Session) (now id due : Nat) :
    (s.resume now id due).2.capabilities = s.capabilities := by
  have kept := capabilities_collect s id
  unfold resume
  split
  · rename_i collected
    rwa [collected] at kept
  · rename_i collected
    rw [collected] at kept
    split
    · exact kept
    · exact kept

/-- A caller that goes on waiting does so for the same request and as long as before. -/
theorem same_of_resume {s s' : Session} {now id due id' due' : Nat}
    (resumed : s.resume now id due = (.waiting id' due', s')) : id' = id ∧ due' = due := by
  unfold resume at resumed
  split at resumed
  · cases resumed
  · split at resumed
    · cases resumed
    · cases resumed
      exact ⟨rfl, rfl⟩

/-- Whoever looks for an answer makes no request pending. -/
theorem mem_pending_of_resume {s : Session} {now id due other : Nat}
    (mem : other ∈ (s.resume now id due).2.pending) : other ∈ s.pending := by
  have kept := pending_collect s id
  unfold resume at mem
  split at mem
  · rename_i collected
    rw [collected] at kept
    rwa [← kept]
  · rename_i collected
    rw [collected] at kept
    rw [← kept]
    split at mem
    · exact ((mem_pending_abandon _ id other).1 mem).1
    · exact mem

/-- A reply to a request that has come and has not been collected. -/
def Replied (s : Session) (id : Nat) (reply : Json) : Prop := (id, .ok reply) ∈ s.answers

namespace Replied

variable {s : Session} {id : Nat} {reply : Json}

theorem of_abandon {other : Nat} (replied : (s.abandon other).Replied id reply) :
    s.Replied id reply := (List.mem_filter.1 replied).1

theorem of_collect {other : Nat} (replied : (s.collect other).2.Replied id reply) :
    s.Replied id reply := by
  unfold collect at replied
  split at replied
  · exact replied
  · exact (List.mem_filter.1 replied).1

/-- A caller that is resumed finds what was there already, or nothing. -/
theorem of_resume {now other due : Nat} (replied : (s.resume now other due).2.Replied id reply) :
    s.Replied id reply := by
  have collected {s' : Session} {found : Option Outcome} (same : s.collect other = (found, s'))
      (there : s'.Replied id reply) : s.Replied id reply := by
    have taken : (s.collect other).2.Replied id reply := by rwa [same]
    exact taken.of_collect
  unfold resume at replied
  split at replied
  · rename_i same
    exact collected same replied
  · rename_i same
    split at replied
    · exact collected same replied.of_abandon
    · exact collected same replied

/-- Failures are no replies. -/
theorem of_failPending {e : Failure} (replied : (s.failPending e).Replied id reply) :
    s.Replied id reply := by
  rcases List.mem_append.1 replied with before | failed
  · exact before
  · obtain ⟨_, -, same⟩ := List.mem_map.1 failed
    cases same

/-- The requests that end with their session have failed: none of them was replied to. -/
theorem of_dispose (replied : s.dispose.Replied id reply) : s.Replied id reply := by
  unfold dispose at replied
  split at replied
  · exact replied
  · exact replied.of_failPending

end Replied

end Session

namespace Client

namespace Connection

/-! ## Connections -/

/-- A connection whose texts are read, and whose requests wait, only as long as its session can be
used. -/
structure Coherent (k : Connection) : Prop where
  reads : k.link.listening = true → k.session.disposed = false
  drained : k.session.disposed = true → k.session.pending = []

/-- A connection that has gone on without a frame or a reply, without anything new about its server,
without a session that was over coming back, and without its socket moving backwards. -/
structure Calm (k k' : Connection) : Prop where
  rest : k' = { k with session := k'.session, link := k'.link }
  queued : k.link.queued <+: k'.link.queued
  frames : k'.link.frames = k.link.frames
  disposed : k.session.disposed = true → k'.session.disposed = true
  coherent : k.Coherent → k'.Coherent
  rank : k.link.state.rank ≤ k'.link.state.rank
  replies : ∀ id reply, k'.session.Replied id reply → k.session.Replied id reply
  capabilities : k'.session.capabilities = k.session.capabilities

/-- Texts of a session that is over are not read. -/
theorem Coherent.silent {k : Connection} (coherent : k.Coherent)
    (disposed : k.session.disposed = true) : k.link.listening = false := by
  refine Bool.eq_false_iff.2 fun listening => ?_
  rw [coherent.reads listening] at disposed
  cases disposed

/-- A session without more requests than before that wait, on a link that is read only if it was
before. -/
theorem Coherent.of_subset {k k' : Connection} (coherent : k.Coherent)
    (disposed : k'.session.disposed = k.session.disposed)
    (pending : ∀ id ∈ k'.session.pending, k.session.disposed = true → id ∈ k.session.pending)
    (listening : k'.link.listening = true → k.link.listening = true) : k'.Coherent where
  reads := fun reading => disposed.trans (coherent.reads (listening reading))
  drained := by
    intro gone
    have before := disposed.symm.trans gone
    refine List.eq_nil_iff_forall_not_mem.2 fun id mem => ?_
    have waits := pending id mem before
    rw [coherent.drained before] at waits
    cases waits

/-- To dispose of a session is to stop reading and to fail whatever waits, so both clauses hold
after it, whether the session was over before or not. -/
theorem Coherent.dispose {k : Connection} (coherent : k.Coherent) : k.dispose.Coherent where
  reads := by
    intro listening
    cases listening
  drained := by
    intro _
    cases disposed : k.session.disposed with
    | false => exact Session.pending_dispose disposed
    | true =>
        have same : k.session.dispose = k.session := by rw [Session.dispose, if_pos disposed]
        exact (congrArg Session.pending same).trans (coherent.drained disposed)

/-- A connection that has only been asked for is read by nobody. -/
theorem coherent_called (endpoint : String) (now : Nat) : (called endpoint now).Coherent where
  reads := by
    intro listening
    cases listening
  drained := fun _ => rfl

namespace Calm

variable {k k' k'' : Connection}

@[refl] theorem refl (k : Connection) : Calm k k :=
  ⟨rfl, List.prefix_refl _, rfl, id, id, Nat.le_refl _, fun _ _ => id, rfl⟩

/-- Calm stretches follow one another; each clause composes for itself. -/
theorem trans (first : Calm k k') (second : Calm k' k'') : Calm k k'' where
  rest := by
    rw [second.rest, first.rest]
  queued := first.queued.trans second.queued
  frames := second.frames.trans first.frames
  disposed := fun disposed => second.disposed (first.disposed disposed)
  coherent := fun coherent => second.coherent (first.coherent coherent)
  rank := Nat.le_trans first.rank second.rank
  replies := fun id reply there => first.replies id reply (second.replies id reply there)
  capabilities := second.capabilities.trans first.capabilities

/-- A session that can be used could be used before. -/
theorem usable (calm : Calm k k') (usable : k'.session.disposed = false) :
    k.session.disposed = false := by
  refine Bool.eq_false_iff.2 fun disposed => ?_
  rw [calm.disposed disposed] at usable
  cases usable

/-- A session disposed of: nothing is queued, and its requests get failures, not replies. -/
theorem dispose (k : Connection) : Calm k k.dispose where
  rest := rfl
  queued := List.prefix_refl _
  frames := rfl
  disposed := fun _ => Session.disposed_dispose k.session
  coherent := Coherent.dispose
  rank := Nat.le_refl _
  replies := fun _ _ there => there.of_dispose
  capabilities := Session.capabilities_dispose k.session

/-- A socket asked to close: the request goes into the queue, but it is no frame. -/
theorem close (k : Connection) : Calm k k.close where
  rest := rfl
  queued := Link.queued_close_prefix k.link
  frames := Link.frames_close k.link
  disposed := id
  coherent := fun coherent => coherent.of_subset rfl (fun _ waits _ => waits)
    fun listening => (Link.listening_close k.link).symm.trans listening
  rank := Link.rank_close k.link
  replies := fun _ _ => id
  capabilities := rfl

/-- A change of the session alone is calm if it neither ends the session nor makes a request wait,
and brings no reply and nothing new about the server. -/
theorem session {session : Session} (disposed : session.disposed = k.session.disposed)
    (pending : ∀ id ∈ session.pending, id ∈ k.session.pending)
    (replies : ∀ id reply, session.Replied id reply → k.session.Replied id reply)
    (capabilities : session.capabilities = k.session.capabilities) :
    Calm k { k with session } where
  rest := rfl
  queued := List.prefix_refl _
  frames := rfl
  disposed := fun gone => disposed.trans gone
  coherent := fun coherent => coherent.of_subset disposed (fun id waits _ => pending id waits) id
  rank := Nat.le_refl _
  replies := replies
  capabilities := capabilities

/-- A change of the link alone is calm if it queues nothing and the socket does not move back. -/
theorem link {link : Link Message} (queued : link.queued = k.link.queued)
    (listening : link.listening = true → k.link.listening = true)
    (rank : k.link.state.rank ≤ link.state.rank) : Calm k { k with link } where
  rest := rfl
  queued := queued ▸ List.prefix_refl _
  frames := congrArg (List.filterMap Outbound.frame?) queued
  disposed := id
  coherent := fun coherent => coherent.of_subset rfl (fun _ waits _ => waits) listening
  rank := rank
  replies := fun _ _ => id
  capabilities := rfl

end Calm

/-- A connection whose socket a peer has moved, in either direction. -/
structure Moved (k k' : Connection) : Prop where
  rest : k' = { k with link := k'.link }
  listening : k'.link.listening = k.link.listening
  queued : k'.link.queued = k.link.queued

namespace Moved

variable {k k' : Connection}

@[refl] theorem refl (k : Connection) : Moved k k := ⟨rfl, rfl, rfl⟩

/-- A peer moves the socket of a link and nothing else of it. -/
theorem setState (k : Connection) (next : SocketState) :
    Moved k { k with link := k.link.setState next } :=
  ⟨rfl, Link.listening_setState k.link next, Link.queued_setState k.link next⟩

theorem session (moved : Moved k k') : k'.session = k.session := by rw [moved.rest]

theorem eq (moved : Moved k k') : k' = { k with session := k'.session, link := k'.link } := by
  rw [moved.rest]

theorem frames (moved : Moved k k') : k'.link.frames = k.link.frames :=
  congrArg (List.filterMap Outbound.frame?) moved.queued

/-- Being coherent is a matter of reading and waiting, not of the socket. -/
theorem coherent (moved : Moved k k') (coherent : k.Coherent) : k'.Coherent := by
  refine coherent.of_subset (congrArg Session.disposed moved.session) ?_ moved.listening.symm.trans
  rw [moved.session]
  exact fun id waits _ => waits

end Moved

end Connection

namespace System

variable {s t u : System}

/-! ## Systems

A calm step of a system is a calm step of each of its connections, and leaves all else but the
agenda as it was. -/

/-- Connections are never lost and never made by changing one of them. -/
theorem length_update (s : System) (c : Nat) (f : Connection → Connection) :
    (s.update c f).connections.length = s.connections.length := List.length_modify f s.connections c

/-- Making jobs ready leaves the connections alone. -/
@[simp] theorem connections_wakeAll (s : System) (js : List Job) :
    (s.wakeAll js).connections = s.connections := by
  induction js generalizing s with
  | nil => rfl
  | cons j rest ih => exact ih (s.wake j)

/-- What an update of one connection does to another or the same. -/
theorem connection_update_eq (s : System) (c d : Nat) (f : Connection → Connection) :
    (s.update c f).connection d
      = if d = c ∧ c < s.connections.length then f (s.connection d) else s.connection d := by
  by_cases same : d = c
  · subst same
    by_cases within : d < s.connections.length
    · rw [if_pos ⟨rfl, within⟩, connection_update s f within]
    · rw [if_neg fun h => within h.2]
      simp [update, connection, List.getElem?_eq_none (Nat.le_of_not_lt within)]
  · rw [if_neg fun h => same h.1, connection_update_of_ne s f same]

/-- A connection beyond the last one counts as never opened. -/
theorem connection_of_length_le (s : System) {c : Nat} (beyond : s.connections.length ≤ c) :
    s.connection c = .called "" 0 := by
  rw [connection, List.getElem?_eq_none beyond]
  rfl

/-- Only a connection that was asked for can have a usable session. -/
theorem lt_length_of_usable {c : Nat} (usable : (s.connection c).session.disposed = false) :
    c < s.connections.length := by
  refine Nat.lt_of_not_le fun beyond => ?_
  rw [connection_of_length_le s beyond] at usable
  cases usable

/-- A system that differs from another only in its agenda and in connections that have calmly gone
on. -/
structure Calm (s t : System) : Prop where
  rest : t = { s with agenda := t.agenda, connections := t.connections }
  length : t.connections.length = s.connections.length
  connection : ∀ c, (s.connection c).Calm (t.connection c)

namespace Calm

@[refl] theorem refl (s : System) : Calm s s := ⟨rfl, rfl, fun _ => .refl _⟩

theorem trans (first : Calm s t) (second : Calm t u) : Calm s u where
  rest := by
    rw [second.rest, first.rest]
  length := second.length.trans first.length
  connection := fun c => (first.connection c).trans (second.connection c)

theorem state (calm : Calm s t) : t.state = s.state := by rw [calm.rest]

theorem attempts (calm : Calm s t) : t.attempts = s.attempts := by rw [calm.rest]

theorem requests (calm : Calm s t) : t.requests = s.requests := by rw [calm.rest]

theorem owned (calm : Calm s t) : t.owned = s.owned := by rw [calm.rest]

theorem alive (calm : Calm s t) : t.alive = s.alive := by
  rw [System.alive, System.alive, calm.owned, calm.requests]

/-- A change of the agenda alone is calm. -/
theorem agenda (s : System) (agenda : Agenda Job) : Calm s { s with agenda } :=
  ⟨rfl, rfl, fun _ => .refl _⟩

theorem wake (s : System) (j : Job) : Calm s (s.wake j) := agenda s _

theorem forget (s : System) (j : Job) : Calm s (s.forget j) := agenda s _

theorem arm (s : System) (j : Job) (due : Nat) : Calm s (s.arm j due) := agenda s _

theorem disarm (s : System) (j : Job) : Calm s (s.disarm j) := agenda s _

theorem wakeAll (s : System) (js : List Job) : Calm s (s.wakeAll js) := by
  induction js generalizing s with
  | nil => exact refl s
  | cons j rest ih => exact (wake s j).trans (ih (s.wake j))

/-- A calm change of one connection is calm. -/
theorem update (s : System) (c : Nat) {f : Connection → Connection}
    (calm : (s.connection c).Calm (f (s.connection c))) : Calm s (s.update c f) where
  rest := rfl
  length := length_update s c f
  connection := by
    intro d
    rw [connection_update_eq]
    split
    · rename_i same
      rw [same.1]
      exact calm
    · exact .refl _

/-- A session and a link that have gone on calmly.  The peer may be made ready by it, which
concerns the agenda only. -/
theorem exchange (s : System) (c : Nat) {session : Session} {link : Link Message}
    (calm : (s.connection c).Calm { s.connection c with session, link }) :
    Calm s (s.exchange c session link) := by
  unfold System.exchange
  simp only []
  split
  · exact (update s c calm).trans (wake _ _)
  · exact update s c calm

/-- Asking for a close is calm, whether there is anything to close or not. -/
theorem closeSocket (s : System) (c : Nat) : Calm s (s.closeSocket c) :=
  exchange s c (Connection.Calm.close (s.connection c))

/-- To dispose of a session wakes those who wait on it.  They run later. -/
theorem dispose (s : System) (c : Nat) : Calm s (s.dispose c) := by
  unfold System.dispose
  simp only []
  split
  · exact refl s
  · have disposed := update s c (Connection.Calm.dispose (s.connection c))
    exact (disposed.trans (forget _ _)).trans (wakeAll _ _)

theorem disposeAny (s : System) (c : Option Nat) : Calm s (s.disposeAny c) := by
  cases c with
  | none => exact refl s
  | some c => exact dispose s c

theorem closeAny (s : System) (c : Option Nat) : Calm s (s.closeAny c) := by
  cases c with
  | none => exact refl s
  | some c => exact closeSocket s c

/-- A link may be left without a reader at any time. -/
theorem stopListening (s : System) (c : Nat) :
    Calm s (s.update c fun k => { k with link := k.link.stopListening }) :=
  update s c (.link rfl nofun (Nat.le_refl _))

/-- What an attempt leaves behind is disposed of; a greeting is given up before. -/
theorem leave (s : System) (phase : Phase) : Calm s (s.leave phase) := by
  cases phase with
  | starting => exact refl s
  | opening c => exact refl s
  | watching c => exact dispose s c
  | handshaking c id due =>
      refine (update s c (.session (Session.disposed_abandon _ id) ?_ ?_ rfl)).trans (dispose _ c)
      · exact fun other waits => ((Session.mem_pending_abandon _ id other).1 waits).1
      · exact fun _ _ there => there.of_abandon

/-- Whoever looks for an answer does so calmly. -/
theorem resume {c now id due : Nat} {call : Session.Call} {session : Session}
    (resumed : (s.connection c).session.resume now id due = (call, session)) :
    Calm s (s.update c fun k => { k with session }) := by
  have kept : session = ((s.connection c).session.resume now id due).2 := by rw [resumed]
  refine update s c (.session ?_ ?_ ?_ ?_)
  · rw [kept]
    exact Session.disposed_resume _ now id due
  · rw [kept]
    exact fun other => Session.mem_pending_of_resume
  · rw [kept]
    exact fun _ _ there => there.of_resume
  · rw [kept]
    exact Session.capabilities_resume _ now id due

end Calm

/-! ## Peers

A peer feeds texts, ends them, goes away and takes frames.  All of that is calm; moving a socket
is calm only as long as it moves onward. -/

namespace Calm

/-- A text that arrives waits until the reader runs. -/
theorem peerFeed (s : System) (c : Nat) (text : String) : Calm s (s.peerFeed c text) := by
  unfold System.peerFeed
  split
  · refine (update s c (.link ?_ ?_ ?_)).trans (wake _ _)
    · exact Link.queued_feed _ text
    · rw [Link.listening_feed]
      exact id
    · exact Nat.le_of_eq (by rw [Link.state_feed])
  · exact refl s

/-- The end of the texts waits until the reader runs, too. -/
theorem peerEndFeed (s : System) (c : Nat) : Calm s (s.peerEndFeed c) :=
  (update s c (.link (Link.queued_endFeed _) id (Nat.le_refl _))).trans (wake _ _)

/-- A peer that moves a socket onward. -/
theorem peerState (s : System) (c : Nat) {next : SocketState}
    (onward : (s.connection c).link.state.rank ≤ next.rank) : Calm s (s.peerState c next) := by
  have moved : Calm s (s.update c fun k => { k with link := k.link.setState next }) := by
    refine update s c (.link (Link.queued_setState _ next) ?_ (Link.rank_setState _ onward))
    rw [Link.listening_setState]
    exact id
  unfold System.peerState
  simp only []
  split
  · exact moved.trans (wakeAll _ _)
  · exact moved

/-- A peer that goes away closes its socket, and that is forward from any state. -/
theorem peerGone (s : System) (c : Nat) : Calm s (s.peerGone c) := by
  refine (peerState s c (SocketState.rank_le_closed _)).trans ?_
  refine (update _ c (.link (Link.queued_dropPeer _) ?_ (Link.rank_dropPeer _))).trans (wake _ _)
  rw [Link.listening_dropPeer]
  exact id

theorem peerTake (s : System) (c : Nat) : Calm s (s.peerTake c).2 := by
  refine update s c (.link (Link.queued_take _) ?_ ?_)
  · intro listening
    exact (Link.listening_take _).symm.trans listening
  · exact Nat.le_of_eq (congrArg SocketState.rank (Link.state_take _).symm)

end Calm

/-! ## Ended sessions -/

/-- A disposed session is over. -/
theorem disposed_dispose_self (s : System) (c : Nat) :
    ((s.dispose c).connection c).session.disposed = true := by
  by_cases disposed : (s.connection c).session.disposed = true
  · rw [dispose]
    simp only [if_pos disposed]
    exact disposed
  · have within := lt_length_of_usable (Bool.eq_false_iff.2 disposed)
    rw [dispose]
    simp only [if_neg disposed, connection_wakeAll]
    rw [show ((s.update c Connection.dispose).forget (.reader c)).connection c
        = (s.update c Connection.dispose).connection c from rfl,
      connection_update s _ within]
    exact Session.disposed_dispose _

/-- An attempt leaves no usable session behind. -/
theorem disposed_leave (s : System) {phase : Phase} {c : Nat} (session : phase.session? = some c) :
    ((s.leave phase).connection c).session.disposed = true := by
  cases phase with
  | starting => cases session
  | opening d => cases session
  | watching d =>
      cases session
      exact disposed_dispose_self s c
  | handshaking d id due =>
      cases session
      exact disposed_dispose_self _ c

end System
end Client
end LanguageBridge
