import LanguageBridge.Client.Background
import LanguageBridge.Proofs.Client.Calm

/-!
# Steps that talk

A session that sends a request or a message, and a reader that hands texts to its session and
answers the requests of the server, may queue frames; otherwise they are as calm as the rest.
`System.Talk` is a calm step in which frames may be queued.  It is all that an invariant about the
client and what runs for it has to know about traffic.

## Main results

* `Session.GoesOn`: a session and its link after anything that may be said on them.  A session that
  is over stays so, and what was queued stays in front.
* `Session.goesOn_call`, `Session.goesOn_finishHandshake`, `Session.goesOn_read`: calls, the end of
  a handshake and readers go on in this way.
* `System.Talk.runReader` and the lemmas beside it lift that to a whole client.
* `System.connection_runReader`: what a reader makes of its own connection, exactly.
-/

namespace LanguageBridge

namespace Session

/-- A notification is queued as it is. -/
theorem notify_eq {s : Session} {l l' : Link Message} {m : Message}
    (sent : s.notify l m = .ok l') : l.send m = .ok l' := by
  unfold notify at sent
  split at sent
  · cases sent
  · exact sent

/-- What one side of a conversation can do without ending it: the session stays what it was, a
session that is over makes no request pending, and the link goes on as it was but for frames. -/
structure GoesOn (s s' : Session) (l l' : Link Message) : Prop where
  disposed : s'.disposed = s.disposed
  pending : ∀ id ∈ s'.pending, s.disposed = true → id ∈ s.pending
  listening : l'.listening = l.listening
  state : l'.state = l.state

namespace GoesOn

variable {s s' s'' : Session} {l l' l'' : Link Message}

/-- A session that does nothing goes on. -/
@[refl] theorem refl (s : Session) (l : Link Message) : GoesOn s s l l :=
  ⟨rfl, fun _ waits _ => waits, rfl, rfl⟩

theorem trans (first : GoesOn s s' l l') (second : GoesOn s' s'' l' l'') : GoesOn s s'' l l'' where
  disposed := second.disposed.trans first.disposed
  pending := by
    intro id waits ended
    have before := second.pending id waits (first.disposed.trans ended)
    exact first.pending id before ended
  listening := second.listening.trans first.listening
  state := second.state.trans first.state

/-- A frame that is sent. -/
theorem send {m : Message} (sent : l.send m = .ok l') (disposed : s'.disposed = s.disposed)
    (pending : ∀ id ∈ s'.pending, s.disposed = true → id ∈ s.pending) : GoesOn s s' l l' where
  disposed := disposed
  pending := pending
  listening := by rw [Link.send_eq sent]
  state := by rw [Link.send_eq sent]

end GoesOn

/-- A request that is sent ends no session. -/
theorem goesOn_call {s s' : Session} {l l' : Link Message} {now : Nat} {timeout : Duration}
    {method : String} {params : Json} {answer : Call}
    (called : s.call l now timeout method params = (answer, s', l')) : GoesOn s s' l l' := by
  unfold call request at called
  split at called
  · rename_i refused
    simp only [] at refused
    split at refused
    · cases refused
      cases called
      exact .refl s l
    · split at refused
      · cases refused
        cases called
        exact ⟨rfl, fun _ waits _ => waits, rfl, rfl⟩
      · cases refused
  · rename_i accepted
    simp only [] at accepted
    split at accepted
    · cases accepted
    · rename_i usable
      have lasts : s.disposed ≠ true := by simp [((inspect_eq_ok_iff _ _).1 usable).1]
      split at accepted
      · cases accepted
      · rename_i sent
        cases accepted
        simp only [giveUp] at called
        split at called
        · cases called
          exact .send sent rfl fun _ _ ended => absurd ended lasts
        · cases called
          exact .send sent rfl fun _ _ ended => absurd ended lasts

/-- A request that waits for no answer has failed. -/
theorem error_of_call {s s' : Session} {l l' : Link Message} {now : Nat} {timeout : Duration}
    {method : String} {params : Json} {outcome : Outcome}
    (called : s.call l now timeout method params = (.over outcome, s', l')) :
    ∃ e, outcome = .error e := by
  unfold call at called
  split at called
  · cases called
    exact ⟨_, rfl⟩
  · simp only [giveUp] at called
    split at called
    · cases called
      exact ⟨_, rfl⟩
    · cases called

/-- The end of a handshake ends no session. -/
theorem goesOn_finishHandshake {s s' : Session} {l l' : Link Message} {outcome : Outcome}
    {result : Except Failure Server.Capabilities}
    (finished : s.finishHandshake l outcome = (result, s', l')) : GoesOn s s' l l' := by
  unfold finishHandshake at finished
  split at finished
  · cases finished
    exact .refl s l
  · simp only [] at finished
    split at finished
    · cases finished
      exact ⟨rfl, fun _ waits _ => waits, rfl, rfl⟩
    · rename_i told
      cases finished
      exact .send (notify_eq told) rfl fun _ waits _ => waits

/-- Only on a socket that carries frames a handshake succeeds. -/
theorem opened_of_finishHandshake {s s' : Session} {l l' : Link Message} {outcome : Outcome}
    {capabilities : Server.Capabilities}
    (finished : s.finishHandshake l outcome = (.ok capabilities, s', l')) : l.state = .opened := by
  unfold finishHandshake at finished
  split at finished
  · cases finished
  · simp only [] at finished
    split at finished
    · cases finished
    · rename_i told
      have sent := Link.send_eq_ok_iff.1 (notify_eq told)
      exact of_decide_eq_true sent.1

@[simp] theorem disposed_answer (s : Session) (id : Nat) (outcome : Outcome) :
    (s.answer id outcome).disposed = s.disposed := by
  unfold answer
  split <;> rfl

/-- A text that is read ends no session. -/
theorem goesOn_read (s : Session) (l : Link Message) (text : String) :
    GoesOn s (s.read l text).1 l (s.read l text).2 := by
  unfold read
  split
  · split
    · exact ⟨disposed_answer s _ _, fun other waits _ => ((mem_pending_answer s _ other _).1 waits).1,
        rfl, rfl⟩
    · exact .refl s l
  · split
    · rename_i sent
      exact .send sent rfl fun _ waits _ => waits
    · exact .refl s l
  · exact .refl s l

/-- So it is for all texts that have arrived. -/
theorem goesOn_foldl_read (texts : List String) (s : Session) (l : Link Message) :
    GoesOn s (texts.foldl (fun (p : Session × Link Message) text => p.1.read p.2 text) (s, l)).1
      l (texts.foldl (fun (p : Session × Link Message) text => p.1.read p.2 text) (s, l)).2 := by
  induction texts generalizing s l with
  | nil => exact .refl s l
  | cons text rest ih =>
      exact (goesOn_read s l text).trans (ih (s.read l text).1 (s.read l text).2)

end Session

namespace Client

namespace Connection

/-- A connection that has gone on, with or without frames, without a session that was over coming
back and without its socket moving backwards. -/
structure Talk (k k' : Connection) : Prop where
  rest : k' = { k with session := k'.session, link := k'.link }
  disposed : k.session.disposed = true → k'.session.disposed = true
  coherent : k.Coherent → k'.Coherent
  rank : k.link.state.rank ≤ k'.link.state.rank

/-- What is calm may be taken for talk in which nothing was said. -/
theorem Calm.talk {k k' : Connection} (calm : Calm k k') : Talk k k' :=
  ⟨calm.rest, calm.disposed, calm.coherent, calm.rank⟩

namespace Talk

variable {k k' k'' : Connection}

@[refl] theorem refl (k : Connection) : Talk k k := (Calm.refl k).talk

theorem trans (first : Talk k k') (second : Talk k' k'') : Talk k k'' where
  rest := by
    rw [second.rest, first.rest]
  disposed := fun disposed => second.disposed (first.disposed disposed)
  coherent := fun coherent => second.coherent (first.coherent coherent)
  rank := Nat.le_trans first.rank second.rank

/-- A session that can be used could be used before. -/
theorem usable (talk : Talk k k') (usable : k'.session.disposed = false) :
    k.session.disposed = false := by
  refine Bool.eq_false_iff.2 fun disposed => ?_
  rw [talk.disposed disposed] at usable
  cases usable

/-- A session and a link that go on as they were but for frames. -/
theorem of_goesOn {session : Session} {link : Link Message}
    (goesOn : k.session.GoesOn session k.link link) : Talk k { k with session, link } where
  rest := rfl
  disposed := fun gone => goesOn.disposed.trans gone
  coherent := fun coherent =>
    coherent.of_subset goesOn.disposed goesOn.pending goesOn.listening.symm.trans
  rank := Nat.le_of_eq (congrArg SocketState.rank goesOn.state.symm)

end Talk

/-- A connection that has been opened and on which a session has been started. -/
structure Begun (k k' : Connection) : Prop where
  endpoint : k'.endpoint = k.endpoint
  wasOpened : k'.wasOpened = true
  number : k'.number.isSome

theorem Begun.talk {k k' k'' : Connection} (begun : Begun k k') (talk : Talk k' k'') :
    Begun k k'' := by
  rw [talk.rest]
  exact ⟨begun.endpoint, begun.wasOpened, begun.number⟩

end Connection

namespace System

variable {s t u : System}

/-- What an exchange on one connection does to another or the same. -/
theorem connection_exchange (s : System) (c d : Nat) (session : Session) (link : Link Message) :
    (s.exchange c session link).connection d
      = if d = c ∧ c < s.connections.length then { s.connection d with session, link }
        else s.connection d := by
  have updated := connection_update_eq s c d fun k => { k with session, link }
  unfold exchange
  simp only []
  split
  · exact updated
  · exact updated

/-- An exchange opens no connection. -/
theorem length_exchange (s : System) (c : Nat) (session : Session) (link : Link Message) :
    (s.exchange c session link).connections.length = s.connections.length := by
  have updated := length_update s c fun k => { k with session, link }
  unfold exchange
  simp only []
  split
  · exact updated
  · exact updated

/-- A system that differs from another only in its agenda and in connections that have gone on. -/
structure Talk (s t : System) : Prop where
  rest : t = { s with agenda := t.agenda, connections := t.connections }
  length : t.connections.length = s.connections.length
  connection : ∀ c, (s.connection c).Talk (t.connection c)

theorem Calm.talk (calm : Calm s t) : Talk s t :=
  ⟨calm.rest, calm.length, fun c => (calm.connection c).talk⟩

namespace Talk

theorem trans (first : Talk s t) (second : Talk t u) : Talk s u where
  rest := by
    rw [second.rest, first.rest]
  length := second.length.trans first.length
  connection := fun c => (first.connection c).trans (second.connection c)

theorem state (talk : Talk s t) : t.state = s.state := by rw [talk.rest]

theorem attempts (talk : Talk s t) : t.attempts = s.attempts := by rw [talk.rest]

theorem alive (talk : Talk s t) : t.alive = s.alive := by rw [talk.rest]; rfl

theorem exchange (s : System) (c : Nat) {session : Session} {link : Link Message}
    (talk : (s.connection c).Talk { s.connection c with session, link }) :
    Talk s (s.exchange c session link) := by
  have updated : Talk s (s.update c fun k => { k with session, link }) := by
    refine ⟨rfl, length_update s c _, fun d => ?_⟩
    rw [connection_update_eq]
    split
    · rename_i same
      rw [same.1]
      exact talk
    · exact .refl _
  unfold System.exchange
  simp only []
  split
  · exact updated.trans (Calm.wake _ _).talk
  · exact updated

/-- A message sent. -/
theorem notify (s : System) (c : Nat) {m : Message} {link : Link Message}
    (sent : (s.connection c).session.notify (s.connection c).link m = .ok link) :
    Talk s (s.exchange c (s.connection c).session link) :=
  exchange s c (.of_goesOn (.send (Session.notify_eq sent) rfl fun _ waits _ => waits))

/-- A request sent. -/
theorem call (s : System) (c : Nat) {now : Nat} {timeout : Duration} {method : String}
    {params : Json} {answer : Session.Call} {session : Session} {link : Link Message}
    (called : (s.connection c).session.call (s.connection c).link now timeout method params
      = (answer, session, link)) : Talk s (s.exchange c session link) :=
  exchange s c (.of_goesOn (Session.goesOn_call called))

/-- The end of a handshake. -/
theorem finishHandshake (s : System) (c : Nat) {outcome : Outcome}
    {result : Except Failure Server.Capabilities} {session : Session} {link : Link Message}
    (finished : (s.connection c).session.finishHandshake (s.connection c).link outcome
      = (result, session, link)) : Talk s (s.exchange c session link) :=
  exchange s c (.of_goesOn (Session.goesOn_finishHandshake finished))

/-- A session that ends because no more texts can come. -/
theorem endOfTexts (s : System) (c : Nat) (session : Session) {link : Link Message}
    (state : link.state = (s.connection c).link.state) :
    Talk s (s.exchange c session.endOfTexts link.stopListening) := by
  refine exchange s c
    ⟨rfl, fun _ => rfl, ?_, Nat.le_of_eq (congrArg SocketState.rank state.symm)⟩
  refine fun _ => ⟨?_, fun _ => rfl⟩
  intro listening
  cases listening

/-- Texts read. -/
theorem runReader (s : System) (c : Nat) : Talk s (s.runReader c) := by
  unfold System.runReader
  simp only []
  split
  · exact (Calm.refl s).talk
  · have read := Session.goesOn_foldl_read (s.connection c).link.inbound (s.connection c).session
      { (s.connection c).link with inbound := [] }
    revert read
    generalize List.foldl _ _ (s.connection c).link.inbound = read
    obtain ⟨session, link⟩ := read
    intro read
    have answered : Talk s (s.exchange c session link) :=
      exchange s c (.of_goesOn ⟨read.disposed, read.pending, read.listening, read.state⟩)
    simp only []
    split
    · exact answered.trans (Calm.wakeAll _ _).talk
    · refine (answered.trans (Calm.wakeAll _ _).talk).trans
        ((endOfTexts _ c session ?_).trans (Calm.wakeAll _ _).talk)
      rw [connection_wakeAll, connection_exchange]
      split
      · rfl
      · exact read.state

end Talk

/-! ## Readers

What a reader does exactly, for those who have to know more than that it talks. -/

/-- What the reader of a connection makes of it. -/
theorem connection_runReader (s : System) {c : Nat}
    (listening : (s.connection c).link.listening = true) :
    ∃ session link, (s.connection c).link.inbound.foldl
        (fun (p : Session × Link Message) text => p.1.read p.2 text)
        ((s.connection c).session, { (s.connection c).link with inbound := [] }) = (session, link) ∧
      (s.runReader c).connection c = if link.feeding then { s.connection c with session, link }
        else { s.connection c with session := session.endOfTexts, link := link.stopListening } := by
  have within : c < s.connections.length := by
    refine Nat.lt_of_not_le fun beyond => ?_
    rw [connection_of_length_le s beyond] at listening
    cases listening
  refine ⟨_, _, rfl, ?_⟩
  unfold runReader
  simp only [listening, Bool.not_true, Bool.false_eq_true, if_false]
  split
  · rw [connection_wakeAll, connection_exchange, if_pos ⟨rfl, within⟩]
  · rw [connection_wakeAll, connection_exchange, connections_wakeAll, length_exchange,
      if_pos ⟨rfl, within⟩, connection_wakeAll, connection_exchange, if_pos ⟨rfl, within⟩]

/-- Nobody but the reader of a connection reads on it. -/
theorem connection_runReader_of_ne (s : System) {c d : Nat} (other : d ≠ c) :
    (s.runReader c).connection d = s.connection d := by
  have still (u : System) (session : Session) (link : Link Message) :
      (u.exchange c session link).connection d = u.connection d := by
    rw [connection_exchange, if_neg fun same => other same.1]
  unfold runReader
  simp only []
  split
  · rfl
  · split <;> simp only [connection_wakeAll, still]

end System
end Client
end LanguageBridge
