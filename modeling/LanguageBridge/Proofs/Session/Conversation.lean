import LanguageBridge.Proofs.Link.Frames
import LanguageBridge.Session

/-!
# Conversations

A conversation is a session on its link together with the callers that wait for it.  Its *deeds* are
whatever can happen to it between two points at which somebody waits: a caller sends a request,
looks for the answer or gives up; the reader takes the next text or learns that there will be none;
the session is disposed of; a message goes out; and the peer does what it likes.  They may come in
any order, and a caller may run out of time at any moment.

Every deed is what `Session` and `Link` say it is.  What is added is a log of what has happened,
which no deed looks at.
-/

namespace LanguageBridge

/-! ## Deeds

A deed is what happens between two points at which somebody waits, so no deed is interrupted by
another one. -/

/-- What has happened in a conversation. -/
inductive Event where
  /-- A request was sent. -/
  | sent (id : Nat)
  /-- A text of the server was read. -/
  | read (text : String)
  /-- A request came to its end, and its caller was told how. -/
  | told (id : Nat) (outcome : Outcome)
  /-- The caller of a request gave up. -/
  | dropped (id : Nat)
  /-- The session was disposed of. -/
  | disposed
  /-- The texts of the server ended. -/
  | ended

/-- A session on its link with the callers that wait for it. -/
structure Conversation where
  session : Session
  link : Link Message
  /-- The requests whose callers wait. -/
  waiting : List Nat
  /-- Everything that has happened, the oldest event first. -/
  log : List Event

/-- One thing that can happen to a conversation. -/
inductive Deed where
  /-- A caller sends a request. -/
  | call (now : Nat) (timeout : Duration) (method : String) (params : Json)
  /-- The caller of a request looks for its answer. -/
  | poll (id now due : Nat)
  /-- The caller of a request gives up. -/
  | drop (id : Nat)
  /-- A message goes out that expects no reply. -/
  | notify (method : String) (params : Json)
  /-- The handshake ends. -/
  | greeted (outcome : Outcome)
  /-- The reader takes the next text, or learns that there will be none. -/
  | read
  | dispose
  /-- The peer is asked to close. -/
  | close
  | peerState (state : SocketState)
  | peerFeed (text : String)
  | peerEndFeed
  | peerGone
  /-- The peer has taken some of what was queued for it. -/
  | peerTook (taken : Nat)

namespace Conversation

/-- A conversation that has not begun. -/
def fresh (state : SocketState) (languageId : String) (requestTimeout : Duration) : Conversation :=
  ⟨.fresh languageId requestTimeout, .fresh state, [], []⟩

/-- A request sent by a caller, who waits unless it is over at once. -/
def call (c : Conversation) (now : Nat) (timeout : Duration) (method : String) (params : Json) :
    Conversation :=
  let request := (c.session.request c.link method params).1
  let (answer, session, link) := c.session.call c.link now timeout method params
  match request, answer with
  | .error _, _ => { c with session, link }
  | .ok id, .waiting _ _ =>
    { c with session, link, waiting := c.waiting ++ [id], log := c.log ++ [.sent id] }
  | .ok id, .over outcome => { c with session, link, log := c.log ++ [.sent id, .told id outcome] }

/-- A caller that looks for the answer to its request. -/
def poll (c : Conversation) (id now due : Nat) : Conversation :=
  if id ∈ c.waiting then
    match c.session.resume now id due with
    | (.waiting _ _, session) => { c with session }
    | (.over outcome, session) =>
      { c with
        session, waiting := c.waiting.filter (· ≠ id), log := c.log ++ [.told id outcome] }
  else c

/-- A caller that gives up. -/
def drop (c : Conversation) (id : Nat) : Conversation :=
  if id ∈ c.waiting then
    { c with
      session := c.session.abandon id
      waiting := c.waiting.filter (· ≠ id)
      log := c.log ++ [.dropped id] }
  else c

/-- A message sent that expects no reply. -/
def notify (c : Conversation) (m : Message) : Conversation :=
  match c.session.notify c.link m with
  | .ok link => { c with link }
  | .error _ => c

/-- The handshake over, with the outcome of its request. -/
def greeted (c : Conversation) (outcome : Outcome) : Conversation :=
  let (_, session, link) := c.session.finishHandshake c.link outcome
  { c with session, link }

/-- The reader at work. -/
def read (c : Conversation) : Conversation :=
  if c.link.listening then
    match c.link.receive with
    | (some text, link) =>
      let (session, link) := c.session.read link text
      { c with session, link, log := c.log ++ [.read text] }
    | (none, link) =>
      if link.feeding then c
      else
        { c with
          session := c.session.endOfTexts, link := link.stopListening, log := c.log ++ [.ended] }
  else c

/-- The session disposed of. -/
def dispose (c : Conversation) : Conversation :=
  if c.session.disposed then c
  else
    { c with
      session := c.session.dispose, link := c.link.stopListening, log := c.log ++ [.disposed] }

/-- One deed done. -/
def act (c : Conversation) : Deed → Conversation
  | .call now timeout method params => c.call now timeout method params
  | .poll id now due => c.poll id now due
  | .drop id => c.drop id
  | .notify method params => c.notify (.notification method params)
  | .greeted outcome => c.greeted outcome
  | .read => c.read
  | .dispose => c.dispose
  | .close => { c with link := c.link.close }
  | .peerState state => { c with link := c.link.setState state }
  | .peerFeed text => { c with link := c.link.feed text }
  | .peerEndFeed => { c with link := c.link.endFeed }
  | .peerGone => { c with link := c.link.dropPeer }
  | .peerTook taken => { c with link := { c.link with taken } }

/-- Some deeds done one after another. -/
def acts (c : Conversation) (deeds : List Deed) : Conversation := deeds.foldl act c

end Conversation

/-! ## Reading a log

What can be told from a log: which requests were sent, how each ended, and whether its caller was
told.  All of it is defined without the state of the session. -/

namespace Event

/-- The request that was sent. -/
def sent? : Event → Option Nat
  | .sent id => some id
  | .read _ => none
  | .told _ _ => none
  | .dropped _ => none
  | .disposed => none
  | .ended => none

/-- The request that nobody waits for any more. -/
def closed? : Event → Option Nat
  | .sent _ => none
  | .read _ => none
  | .told id _ => some id
  | .dropped id => some id
  | .disposed => none
  | .ended => none

end Event

/-- A text that answers a request: a message whose id is the integer equal to that of the request
and that has no method, or none that is a string. -/
def Answers (text : String) (id : Nat) (outcome : Outcome) : Prop :=
  ∃ message, Json.read? text = some message ∧
    (message.get? "id").bind Json.int64? = some (id : Int) ∧
    (message.get? "method").bind Json.text? = none ∧ outcome = Session.outcomeOf message

namespace Event

/-- Whether an event settles how a request ends, if that was still open. -/
def Settles (id : Nat) : Event → Prop
  | .sent _ => False
  | .read text => ∃ outcome, Answers text id outcome
  | .told other _ => other = id
  | .dropped other => other = id
  | .disposed => True
  | .ended => True

/-- The outcome that an event gives to a request that was still open. -/
def Gives (id : Nat) (outcome : Outcome) : Event → Prop
  | .read text => Answers text id outcome
  | .disposed => outcome = .error .sessionDisposed
  | .ended => outcome = .error .connectionClosed
  | .sent _ => False
  | .told _ _ => False
  | .dropped _ => False

theorem Gives.settles {id : Nat} {outcome : Outcome} {e : Event} (gives : e.Gives id outcome) :
    e.Settles id := by
  cases e with
  | read text => exact ⟨outcome, gives⟩
  | disposed => trivial
  | ended => trivial
  | sent other => cases gives
  | told other _ => cases gives
  | dropped other => cases gives

end Event

/-- A request that was sent and that nothing has settled since. -/
def Outstanding (log : List Event) (id : Nat) : Prop :=
  ∃ before after, log = before ++ .sent id :: after ∧ ∀ e ∈ after, ¬e.Settles id

/-- A request that was sent and whose outcome was given by the first event that has settled it. -/
def Decided (log : List Event) (id : Nat) (outcome : Outcome) : Prop :=
  ∃ before between e after, log = before ++ .sent id :: (between ++ e :: after) ∧
    (∀ e' ∈ between, ¬e'.Settles id) ∧ e.Gives id outcome

/-- Where an event of a log that has just become longer stands. -/
theorem snoc_eq_split {log before after : List Event} {e e' : Event}
    (split : log ++ [e] = before ++ e' :: after) :
    (log = before ∧ e = e' ∧ after = []) ∨
      ∃ rest, after = rest ++ [e] ∧ log = before ++ e' :: rest := by
  rcases List.append_eq_append_iff.1 split with ⟨rest, start, ends⟩ | ⟨rest, start, ends⟩
  · -- The event stands behind the old log, where there is room for one only.
    cases rest with
    | nil =>
        obtain ⟨same, nothing⟩ := List.cons.inj ends
        exact .inl ⟨by rw [start, List.append_nil], same, nothing.symm⟩
    | cons x rest => simp at ends
  · cases rest with
    | nil =>
        obtain ⟨same, nothing⟩ := List.cons.inj ends
        exact .inl ⟨by rw [start, List.append_nil], same.symm, nothing⟩
    | cons x rest =>
        obtain ⟨rfl, last⟩ := List.cons.inj ends
        exact .inr ⟨rest, last, start⟩

/-- The first event of a kind stands at one place only. -/
theorem first_unique {p : Event → Prop} {before before' after after' : List Event} {e e' : Event}
    (split : before ++ e :: after = before' ++ e' :: after')
    (none : ∀ x ∈ before, ¬p x) (holds : p e) (none' : ∀ x ∈ before', ¬p x) (holds' : p e') :
    e = e' ∧ after = after' := by
  induction before generalizing before' with
  | nil =>
      cases before' with
      | nil => exact List.cons.inj split
      | cons x rest =>
          obtain ⟨rfl, -⟩ := List.cons.inj split
          exact absurd holds (none' e (by simp))
  | cons x rest ih =>
      cases before' with
      | nil =>
          obtain ⟨rfl, -⟩ := List.cons.inj split
          exact absurd holds' (none x (by simp))
      | cons y rest' =>
          obtain ⟨-, tails⟩ := List.cons.inj split
          exact ih tails (fun z mem => none z (by simp [mem])) fun z mem => none' z (by simp [mem])

/-! ## Outstanding and decided requests

A request is outstanding from the moment at which it is sent to the first event that settles it,
and that event decides how it ends. -/

/-- A request is outstanding when it has just been sent. -/
theorem outstanding_sent (log : List Event) (id : Nat) : Outstanding (log ++ [.sent id]) id :=
  ⟨log, [], rfl, by simp⟩

/-- One event more leaves a request outstanding if it does not settle it. -/
theorem outstanding_append {log : List Event} {e : Event} {id : Nat} (other : e ≠ .sent id) :
    Outstanding (log ++ [e]) id ↔ Outstanding log id ∧ ¬e.Settles id := by
  constructor
  · rintro ⟨before, after, split, unsettled⟩
    rcases snoc_eq_split split with ⟨-, same, -⟩ | ⟨rest, rfl, same⟩
    · exact absurd same other
    · exact ⟨⟨before, rest, same, fun e' mem => unsettled e' (by simp [mem])⟩,
        unsettled e (by simp)⟩
  · rintro ⟨⟨before, after, rfl, unsettled⟩, settled⟩
    refine ⟨before, after ++ [e], by simp, ?_⟩
    intro e' mem
    rcases List.mem_append.1 mem with old | new
    · exact unsettled e' old
    · rw [List.mem_singleton.1 new]
      exact settled

/-- What has been decided stays so. -/
theorem Decided.append {log : List Event} {id : Nat} {outcome : Outcome}
    (decided : Decided log id outcome) (more : List Event) : Decided (log ++ more) id outcome := by
  obtain ⟨before, between, e, after, rfl, unsettled, gives⟩ := decided
  exact ⟨before, between, e, after ++ more, by simp, unsettled, gives⟩

/-- An outstanding request is decided by the next event that gives it an outcome. -/
theorem Outstanding.decided {log : List Event} {id : Nat} {outcome : Outcome} {e : Event}
    (outstanding : Outstanding log id) (gives : e.Gives id outcome) :
    Decided (log ++ [e]) id outcome := by
  obtain ⟨before, after, rfl, unsettled⟩ := outstanding
  exact ⟨before, after, e, [], by simp, unsettled, gives⟩

/-- A log in which no request is sent twice. -/
def SentOnce (log : List Event) : Prop := (log.filterMap Event.sent?).Nodup

/-- What comes before the one place at which a request is sent. -/
theorem SentOnce.notMem {before after : List Event} {id : Nat}
    (once : SentOnce (before ++ .sent id :: after)) : ∀ e ∈ before, e ≠ .sent id := by
  rintro e mem rfl
  have sent : id ∈ before.filterMap Event.sent? := List.mem_filterMap.2 ⟨.sent id, mem, rfl⟩
  have apart : (before.filterMap Event.sent? ++ id :: after.filterMap Event.sent?).Nodup := by
    simpa [SentOnce, Event.sent?] using once
  exact (List.nodup_append.1 apart).2.2 id sent id (by simp) rfl

/-- What settles a request that is sent once is one event at one place. -/
theorem settled_unique {before between after before' between' after' : List Event} {e e' : Event}
    {id : Nat} (once : SentOnce (before ++ .sent id :: (between ++ e :: after)))
    (split : before ++ .sent id :: (between ++ e :: after)
      = before' ++ .sent id :: (between' ++ e' :: after'))
    (unsettled : ∀ x ∈ between, ¬x.Settles id) (settles : e.Settles id)
    (unsettled' : ∀ x ∈ between', ¬x.Settles id) (settles' : e'.Settles id) : e = e' := by
  -- First the place at which the request is sent, then the place at which it is settled.
  obtain ⟨-, tails⟩ := first_unique (p := fun x => x = .sent id) split once.notMem rfl
    (split ▸ once).notMem rfl
  exact (first_unique tails unsettled settles unsettled' settles').1

/-- A text answers one request only, with one outcome. -/
theorem Answers.unique {text : String} {id other : Nat} {outcome outcome' : Outcome}
    (first : Answers text id outcome) (second : Answers text other outcome') :
    id = other ∧ outcome = outcome' := by
  obtain ⟨message, read, whole, -, rfl⟩ := first
  obtain ⟨message', read', whole', -, rfl⟩ := second
  rw [read] at read'
  cases read'
  rw [whole] at whole'
  exact ⟨Int.ofNat_inj.1 (Option.some.inj whole'), rfl⟩

theorem Event.Gives.unique {id : Nat} {outcome other : Outcome} {e : Event}
    (first : e.Gives id outcome) (second : e.Gives id other) : outcome = other := by
  cases e with
  | read text => exact (Answers.unique first second).2
  | disposed => exact Eq.trans first (Eq.symm second)
  | ended => exact Eq.trans first (Eq.symm second)
  | sent _ => cases first
  | told _ _ => cases first
  | dropped _ => cases first

/-- A request is decided in one way only. -/
theorem Decided.unique {log : List Event} {id : Nat} {outcome other : Outcome}
    (once : SentOnce log) (first : Decided log id outcome) (second : Decided log id other) :
    outcome = other := by
  obtain ⟨before, between, e, after, rfl, unsettled, gives⟩ := first
  obtain ⟨before', between', e', after', split, unsettled', gives'⟩ := second
  obtain rfl := settled_unique once split unsettled gives.settles unsettled' gives'.settles
  exact gives.unique gives'

/-- A request that nothing had settled when its caller was told of its end is never decided. -/
theorem Decided.not_of_told {before after : List Event} {id : Nat} {outcome other : Outcome}
    (once : SentOnce (before ++ .told id other :: after)) (outstanding : Outstanding before id) :
    ¬Decided (before ++ .told id other :: after) id outcome := by
  obtain ⟨start, rest, rfl, unsettled⟩ := outstanding
  rintro ⟨before', between', e', after', split, unsettled', gives'⟩
  have longer : start ++ .sent id :: (rest ++ .told id other :: after)
      = before' ++ .sent id :: (between' ++ e' :: after') := by
    simpa using split
  obtain rfl := settled_unique (by simpa using once) longer unsettled
    (show (Event.told id other).Settles id from rfl) unsettled' gives'.settles
  cases gives'

end LanguageBridge
