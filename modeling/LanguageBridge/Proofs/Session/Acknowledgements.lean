import LanguageBridge.Proofs.Json.Printing
import LanguageBridge.Proofs.Session.Replies
import LanguageBridge.Proofs.Session.Stage

/-!
# What a reader writes

A server may ask the client for something.  Nothing is ever done about it, but a server that waits
for an answer would stall, so each such request is acknowledged, under the id it came with and
whatever that id is.  This is all that reading ever queues: whatever else arrives, be it a reply, a
notification or no message at all, the reader passes over to the next text without writing anything
(`Conversation.requests_acknowledged`).

What a text asks is told here from the text alone (`Asks`, `Asked`), not from the way in which a
session classifies it; that the two agree say `ofText_of_asks` and `asks_of_ofText`.

## Main definitions

* `Asks text id`: the text is an object with a method and with an id that is not `null`.
* `Asked texts ids`: in some texts, these are the ids under which something is asked, in order.
* `Attentive`: as long as the session of a conversation can be used, its texts are read.  This is
  the invariant that makes the reader go on: it ends with the session and not before.
* `Acknowledging`: what reading the next text, and all texts that have arrived, writes.

An acknowledgement can only be sent on an open socket.  On a socket that is closing the request of
the server is passed over, and the reader goes on all the same.
-/

namespace LanguageBridge

/-! ## What a server asks -/

/-- A text that asks the client for something: an object with an id, of whatever kind, that is not
null, and with a method that is a string. -/
def Asks (text : String) (id : Json) : Prop :=
  ∃ fields method, Json.read? text = some (.object fields) ∧ fields.lookup "id" = some id ∧
    id ≠ .null ∧ fields.lookup "method" = some (.text method)

/-- A text with a method that is a string. -/
def HasMethod (text : String) : Prop :=
  ∃ fields method, Json.read? text = some (.object fields) ∧
    fields.lookup "method" = some (.text method)

/-- The ids of the requests among some texts, in the order in which the texts came. -/
inductive Asked : List String → List Json → Prop
  | nil : Asked [] []
  | request {text : String} {id : Json} {texts : List String} {ids : List Json}
      (asks : Asks text id) (rest : Asked texts ids) : Asked (text :: texts) (id :: ids)
  | other {text : String} {texts : List String} {ids : List Json}
      (nothing : ∀ id, ¬Asks text id) (rest : Asked texts ids) : Asked (text :: texts) ids

namespace Json

theorem isNull_eq_true_iff {v : Json} : v.isNull = true ↔ v = .null := by
  cases v <;> simp [isNull]

theorem text?_eq_some_iff {v : Json} {s : String} : v.text? = some s ↔ v = .text s := by
  cases v <;> simp [text?]

/-- Only an object has fields. -/
theorem get?_eq_some_iff {v w : Json} {key : String} :
    v.get? key = some w ↔ ∃ fields, v = .object fields ∧ fields.lookup key = some w := by
  cases v <;> simp [get?]

end Json

namespace Session

variable {s : Session} {l : Link Message} {text : String}

/-- A text that asks for something is taken for a request. -/
theorem ofText_of_asks {id : Json} (asks : Asks text id) : Incoming.ofText text = .request id := by
  obtain ⟨fields, method, read, own, some, named⟩ := asks
  have kept : (Option.some id).filter (fun id => !id.isNull) = Option.some id := by
    rw [Option.filter_eq_some_iff]
    simpa [← Json.isNull_eq_true_iff] using some
  simp [Incoming.ofText, Incoming.ofJson, read, Json.get?, own, named, Json.text?, kept]

/-- Nothing else is. -/
theorem asks_of_ofText {id : Json} (incoming : Incoming.ofText text = .request id) :
    Asks text id := by
  unfold Incoming.ofText at incoming
  split at incoming
  · rename_i message read
    unfold Incoming.ofJson at incoming
    split at incoming
    · split at incoming <;> cases incoming
    · rename_i own named
      cases incoming
      obtain ⟨there, some⟩ := Option.filter_eq_some_iff.1 own
      obtain ⟨fields, rfl, there'⟩ := Json.get?_eq_some_iff.1 there
      obtain ⟨v, there, is⟩ := Option.bind_eq_some_iff.1 named
      rw [Json.text?_eq_some_iff] at is
      refine ⟨fields, _, read, there', ?_, is ▸ there⟩
      simpa [← Json.isNull_eq_true_iff] using some
    · cases incoming
  · cases incoming

/-- A text with a method is no reply. -/
theorem not_reply_of_hasMethod (has : HasMethod text) (id : Int) (outcome : Outcome) :
    Incoming.ofText text ≠ .reply id outcome := by
  obtain ⟨fields, method, read, named⟩ := has
  simp only [Incoming.ofText, read, Incoming.ofJson, Json.get?, named, Option.bind_some, Json.text?]
  split <;> simp_all

/-! ## Reading

A text is read for its effect on the queue.  Only a request writes to it. -/

/-- A request is acknowledged. -/
theorem read_of_asks {id : Json} (asks : Asks text id) (opened : l.isOpen = true)
    (peer : l.peer = true) :
    s.read l text = (s, { l with queued := l.queued ++ [.frame (.acknowledgement id)] }) := by
  have sent := Link.send_eq_ok_iff (f := Message.acknowledgement id).2 ⟨opened, peer, rfl⟩
  simp only [read, ofText_of_asks asks, sent]

/-- Any other text leaves the link as it was. -/
theorem link_read (nothing : ∀ id, ¬Asks text id) : (s.read l text).2 = l := by
  unfold read
  split
  · split <;> rfl
  · rename_i incoming
    exact absurd (asks_of_ofText incoming) (nothing _)
  · rfl

/-- A text with a method does not touch the session. -/
theorem session_read (has : HasMethod text) : (s.read l text).1 = s := by
  unfold read
  split
  · rename_i incoming
    exact absurd incoming (not_reply_of_hasMethod has _ _)
  · split <;> rfl
  · rfl

/-- Each request among some texts is acknowledged once, in order, and nothing else is queued. -/
theorem readAll_asked (opened : l.isOpen = true) (peer : l.peer = true) (texts : List String) :
    ∃ ids, Asked texts ids ∧ (s.readAll l texts).2
      = { l with queued := l.queued ++ ids.map fun id => .frame (.acknowledgement id) } := by
  induction texts generalizing s l with
  | nil => exact ⟨[], .nil, by simp [readAll]⟩
  | cons text rest ih =>
      have first : s.readAll l (text :: rest)
          = (s.read l text).1.readAll (s.read l text).2 rest := rfl
      by_cases asks : ∃ id, Asks text id
      · obtain ⟨id, asks⟩ := asks
        obtain ⟨ids, asked, same⟩ := ih (s := s) (l := (s.read l text).2)
          (by rw [read_of_asks asks opened peer]; exact opened)
          (by rw [read_of_asks asks opened peer]; exact peer)
        refine ⟨id :: ids, .request asks asked, ?_⟩
        rw [first, read_of_asks asks opened peer]
        rw [read_of_asks asks opened peer] at same
        simpa using same
      · rw [not_exists] at asks
        obtain ⟨ids, asked, same⟩ := ih (s := (s.read l text).1) (l := l) opened peer
        refine ⟨ids, .other asks asked, ?_⟩
        rw [first, link_read asks, same]

/-- Whoever sends a request changes nothing of a link but its queue, and does not end the
session. -/
theorem link_call (s : Session) (l : Link Message) (now : Nat) (timeout : Duration)
    (method : String) (params : Json) :
    (s.call l now timeout method params).2.1.disposed = s.disposed ∧
      ∃ queued, (s.call l now timeout method params).2.2 = { l with queued } := by
  rcases s.request_cases l method params with ⟨e, n, -, refused⟩ | ⟨link, -, sent, accepted⟩
  · rw [call_of_refused refused]
    exact ⟨rfl, l.queued, rfl⟩
  · rcases call_of_sent accepted now timeout with late | ⟨due, waits⟩
    · rw [late]
      exact ⟨rfl, _, Link.send_eq sent⟩
    · rw [waits]
      exact ⟨rfl, _, Link.send_eq sent⟩

end Session

namespace Conversation

variable {c : Conversation}

/-! ## Conversations that go on

That the reader goes on is an invariant: none of the deeds of a conversation takes the reader away
without ending the session. -/

/-- A conversation whose texts are read as long as its session lasts, and whose socket closes when
the peer goes. -/
structure Attentive (c : Conversation) : Prop where
  listening : c.session.disposed = false → c.link.listening = true
  peer : c.link.peer = false → c.link.state = .closed

namespace Attentive

/-- Whatever is done to the queue and to the pending requests does not matter. -/
theorem of_queued (attentive : Attentive c) {c' : Conversation}
    (disposed : c'.session.disposed = c.session.disposed)
    (queued : ∃ queued, c'.link = { c.link with queued }) : Attentive c' := by
  obtain ⟨queued, same⟩ := queued
  refine ⟨?_, ?_⟩ <;> rw [same]
  · exact fun usable => attentive.listening (disposed ▸ usable)
  · exact attentive.peer

/-- A session that is over needs no reader. -/
theorem of_over {c' : Conversation} (attentive : Attentive c)
    (disposed : c'.session.disposed = true) (link : c'.link = c.link.stopListening) :
    Attentive c' := by
  refine ⟨fun usable => ?_, ?_⟩
  · cases disposed.symm.trans usable
  · rw [link]
    exact attentive.peer

/-- The reader takes a text, or finds that none will come and ends the session; it stays attentive
in both cases. -/
theorem read (attentive : Attentive c) : Attentive c.read := by
  unfold Conversation.read
  split
  · rename_i listening
    cases inbound : c.link.inbound with
    | nil =>
        simp only [Link.receive, inbound]
        split
        · exact attentive
        · exact attentive.of_over rfl rfl
    | cons text rest =>
        -- Only the queue can change while a text is read.
        have read := Conversation.read_of_text listening inbound
        have session := (c.session.goesOn_read c.link text).disposed
        have link : ∃ queued, (c.session.read c.link text).2 = { c.link with queued } := by
          by_cases asks : ∃ id, Asks text id
          · obtain ⟨id, asks⟩ := asks
            unfold Session.read
            rw [Session.ofText_of_asks asks]
            simp only []
            split
            · rename_i sent
              exact ⟨_, Link.send_eq sent⟩
            · exact ⟨_, rfl⟩
          · exact ⟨_, Session.link_read (not_exists.1 asks)⟩
        obtain ⟨queued, link⟩ := link
        rw [Conversation.read, if_pos listening] at read
        rw [read, link]
        exact ⟨fun usable => attentive.listening (session ▸ usable), attentive.peer⟩
  · exact attentive

/-- A socket that the peer has moved, or that was asked to close. -/
theorem of_state (attentive : Attentive c) {link : Link Message}
    (listening : link.listening = c.link.listening)
    (peer : link.peer = false → link.state = .closed) : Attentive { c with link } :=
  ⟨fun usable => listening.trans (attentive.listening usable), peer⟩

/-- **Every deed keeps a conversation attentive.** -/
theorem act (attentive : Attentive c) (deed : Deed) : Attentive (c.act deed) := by
  cases deed with
  | call now timeout method params =>
      obtain ⟨disposed, queued⟩ := c.session.link_call c.link now timeout method params
      refine attentive.of_queued ?_ ?_ <;> simp only [Conversation.act, Conversation.call]
      · split <;> exact disposed
      · split <;> exact queued
  | poll id now due =>
      have disposed := c.session.disposed_resume now id due
      simp only [Conversation.act, Conversation.poll]
      split
      · split
        · rename_i resumed
          rw [resumed] at disposed
          exact attentive.of_queued disposed ⟨_, rfl⟩
        · rename_i resumed
          rw [resumed] at disposed
          exact attentive.of_queued disposed ⟨_, rfl⟩
      · exact attentive
  | drop id =>
      simp only [Conversation.act, Conversation.drop]
      split
      · exact attentive.of_queued rfl ⟨_, rfl⟩
      · exact attentive
  | notify method params =>
      simp only [Conversation.act, Conversation.notify]
      split
      · rename_i sent
        exact attentive.of_queued rfl ⟨_, Link.send_eq (Session.notify_eq sent)⟩
      · exact attentive
  | greeted outcome =>
      rcases finished : c.session.finishHandshake c.link outcome with ⟨result, session, link⟩
      have talk := Session.goesOn_finishHandshake finished
      have greeted : c.act (.greeted outcome) = { c with session, link } := by
        simp only [Conversation.act, Conversation.greeted, finished]
      rw [greeted]
      refine attentive.of_queued talk.disposed ?_
      rcases c.session.finishHandshake_cases c.link outcome with
        ⟨e, s', failed, -⟩ | ⟨reply, capabilities, s', l', -, told, done, -⟩
      · cases failed.symm.trans finished
        exact ⟨_, rfl⟩
      · cases done.symm.trans finished
        exact ⟨_, Link.send_eq told⟩
  | read => exact attentive.read
  | dispose =>
      simp only [Conversation.act, Conversation.dispose]
      split
      · exact attentive
      · exact attentive.of_over (Session.disposed_dispose _) rfl
  | close =>
      refine attentive.of_state (Link.listening_close _) fun gone => ?_
      -- The peer that is gone has closed the socket, so it is not asked to close.
      have shut : c.link.state = .closed := by
        refine attentive.peer ?_
        rw [Link.close] at gone
        split at gone <;> exact gone
      rw [Link.close, if_neg (by simp [Link.mayClose, shut])]
      exact shut
  | peerState state =>
      refine attentive.of_state (Link.listening_setState _ _) fun gone => ?_
      have shut : c.link.state = .closed := by
        refine attentive.peer ?_
        rw [Link.setState] at gone
        split at gone <;> exact gone
      rw [Link.setState_closed _ _ shut]
      exact shut
  | peerFeed text =>
      refine attentive.of_state (Link.listening_feed _ _) ?_
      rw [Link.feed]
      split <;> exact attentive.peer
  | peerEndFeed => exact ⟨attentive.listening, attentive.peer⟩
  | peerGone =>
      refine attentive.of_state (Link.listening_dropPeer _) fun _ => ?_
      unfold Link.dropPeer Link.setState
      split
      · assumption
      · rfl
  | peerTook taken => exact ⟨attentive.listening, attentive.peer⟩

theorem fresh (state : SocketState) (languageId : String) (requestTimeout : Duration) :
    Attentive (.fresh state languageId requestTimeout) :=
  ⟨fun _ => rfl, nofun⟩

/-- So do all that come of it, as long as they last. -/
theorem acts (attentive : Attentive c) (deeds : List Deed) : Attentive (c.acts deeds) := by
  induction deeds generalizing c with
  | nil => exact attentive
  | cons deed rest ih => exact ih (attentive.act deed)

end Attentive

/-! ## The answers to a server -/

/-- What reading does on a conversation whose session lasts. -/
structure Acknowledging (c : Conversation) : Prop where
  /-- While the socket is open, whoever asks for something is acknowledged, by one frame and under
  the id that was given. -/
  request : c.link.state = .opened → ∀ text rest id, c.link.inbound = text :: rest →
    Asks text id → c.read.link.queued = c.link.queued ++ [.frame (.acknowledgement id)]
  /-- What an acknowledgement says: the id as it came, and no more. -/
  written : ∀ id, (Message.acknowledgement id).toJson
    = .object [("id", id), ("jsonrpc", .text "2.0"), ("result", .null)]
  /-- Nothing else makes the reader write. -/
  other : ∀ text rest, c.link.inbound = text :: rest → (∀ id, ¬Asks text id) →
    c.read.link.queued = c.link.queued
  idle : c.link.inbound = [] → c.read.link.queued = c.link.queued
  /-- A text with a method leaves the session alone, and with it what is pending and what has been
  answered, even if it has the id of a request that is pending. -/
  methodical : ∀ text rest, c.link.inbound = text :: rest → HasMethod text →
    c.read.session = c.session ∧ c.read.waiting = c.waiting
  /-- Whatever a text is, the reader goes on with the next, of a session that still lasts. -/
  next : ∀ text rest, c.link.inbound = text :: rest →
    c.read.link.inbound = rest ∧ c.read.link.listening = true ∧
      c.read.link.state = c.link.state ∧ c.read.session.disposed = false
  /-- So all the texts that have come are read, and the requests among them are acknowledged, each
  once and in the order in which they came. -/
  all : c.link.state = .opened → ∃ ids, Asked c.link.inbound ids ∧
    (c.acts (List.replicate c.link.inbound.length .read)).link
      = { c.link with
          queued := c.link.queued ++ ids.map fun id => .frame (.acknowledgement id)
          inbound := [] }

/-- The peer of an open socket is there. -/
theorem Attentive.peer_of_opened (attentive : Attentive c) (opened : c.link.state = .opened) :
    c.link.peer = true := by
  rw [← Bool.not_eq_false]
  intro gone
  cases (attentive.peer gone).symm.trans opened

/-- What an attentive conversation does with its texts, while its session can be used. -/
theorem Attentive.acknowledging (attentive : Attentive c) (usable : c.session.disposed = false) :
    Acknowledging c where
  request opened text rest id inbound asks := by
    rw [read_of_text (attentive.listening usable) inbound,
      Session.read_of_asks asks (decide_eq_true opened) (attentive.peer_of_opened opened)]
  written _ := rfl
  other text rest inbound nothing := by
    rw [read_of_text (attentive.listening usable) inbound, Session.link_read nothing]
  idle inbound := by
    have listening := attentive.listening usable
    cases feeding : c.link.feeding with
    | true => simp [Conversation.read, listening, Link.receive, inbound, feeding]
    | false => rw [read_of_end listening inbound feeding, Link.queued_stopListening]
  methodical text rest inbound has := by
    rw [read_of_text (attentive.listening usable) inbound]
    exact ⟨Session.session_read has, rfl⟩
  next text rest inbound := by
    have goes := c.session.goesOn_read c.link text
    rw [read_of_text (attentive.listening usable) inbound]
    exact ⟨rfl, goes.listening.trans (attentive.listening usable), goes.state,
      goes.disposed.trans usable⟩
  all opened := by
    obtain ⟨log, whole⟩ := acts_read (attentive.listening usable) rfl
    obtain ⟨ids, asked, same⟩ := Session.readAll_asked (s := c.session)
      (l := { c.link with inbound := [] }) (decide_eq_true opened)
      (attentive.peer_of_opened opened) c.link.inbound
    refine ⟨ids, asked, ?_⟩
    rw [whole, same]

/-- Whatever has happened to a session that lasts, it acknowledges what the server asks for while
its socket is open, and the server can make it write nothing else. -/
theorem requests_acknowledged (state : SocketState) (languageId : String)
    (requestTimeout : Duration) (deeds : List Deed)
    (usable : ((fresh state languageId requestTimeout).acts deeds).session.disposed = false) :
    Acknowledging ((fresh state languageId requestTimeout).acts deeds) :=
  ((Attentive.fresh state languageId requestTimeout).acts deeds).acknowledging usable

/-- What a server asks under an id that is a whole number. -/
def question (id : Nat) (method : String) : Json :=
  .object [("id", .nat id), ("method", .text method)]

/-- A question asks under its id, whatever its method is. -/
theorem asks_question {id : Nat} (fits : id ≤ Json.maxNatural) (method : String) :
    Asks (question id method).compact (.nat id) := by
  have plain : Json.Plain (question id method) := by
    refine .object ?_
    intro f mem
    rcases List.mem_cons.1 mem with rfl | mem
    · exact .nat fits
    · rw [List.mem_singleton.1 mem]
      exact .text method
  have sorted (v w : Json) : Json.sortFields [("id", v), ("method", w)] = [("id", v), ("method", w)] := by
    have order : ¬"method" < "id" := by decide
    have other : "method" ≠ "id" := by decide
    simp only [Json.sortFields, List.foldl_cons, List.foldl_nil, Json.insertField, if_neg order,
      if_neg other]
  have read : Json.read? (question id method).compact = some (question id method) := by
    rw [Json.read?, Json.compact, String.toList_ofList, plain.reads_print.readDraft]
    simp [Json.skipSpace, question, Json.draft, Json.draftFields, Json.Draft.resolve?,
      Json.resolveFields?, Json.maxDepth, sorted, Json.nat]
  exact ⟨_, method, read, rfl, Json.noConfusion, rfl⟩

/-- A conversation with a pending request, whose server asks under the id of that request for its
settings. -/
def interrogated : Conversation :=
  (fresh .opened "rust" 1000000000).acts
    [.call 0 1000000000 "textDocument/hover" .null,
      .peerFeed (question 1 "workspace/configuration").compact]

/-- The server is told nothing under that id, and the request stays pending. -/
theorem interrogated_acknowledges :
    interrogated.session.pending = [1] ∧
      interrogated.read.link.queued
        = interrogated.link.queued ++ [.frame (.acknowledgement (.nat 1))] ∧
      interrogated.read.session.pending = [1] := by
  have sound : Acknowledging interrogated := requests_acknowledged _ _ _ _ (by decide)
  obtain ⟨fields, method, read, own, some, named⟩ :=
    asks_question (show 1 ≤ Json.maxNatural by decide) "workspace/configuration"
  have untouched := sound.methodical _ [] rfl ⟨fields, method, read, named⟩
  refine ⟨by decide, sound.request (by decide) _ [] _ rfl ⟨_, _, read, own, some, named⟩, ?_⟩
  rw [untouched.1]
  decide

end Conversation

/-- So does the reader of a client, on each connection whose socket is open. -/
theorem Client.System.queued_runReader (s : Client.System) {c : Nat}
    (listening : (s.connection c).link.listening = true)
    (opened : (s.connection c).link.state = .opened) (peer : (s.connection c).link.peer = true) :
    ∃ ids, Asked (s.connection c).link.inbound ids ∧
      ((s.runReader c).connection c).link.queued
        = (s.connection c).link.queued ++ ids.map fun id => .frame (.acknowledgement id) := by
  obtain ⟨session, link, read, after⟩ := s.connection_runReader listening
  obtain ⟨ids, asked, same⟩ := Session.readAll_asked (s := (s.connection c).session)
    (l := { (s.connection c).link with inbound := [] }) (decide_eq_true opened) peer
    (s.connection c).link.inbound
  rw [Session.readAll, read] at same
  refine ⟨ids, asked, ?_⟩
  rw [after]
  split
  · exact congrArg Link.queued same
  · exact congrArg Link.queued same

end LanguageBridge
