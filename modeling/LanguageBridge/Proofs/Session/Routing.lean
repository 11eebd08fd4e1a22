import LanguageBridge.Proofs.Client.Talk
import LanguageBridge.Proofs.Session.Conversation

/-!
# What a deed does to the table of pending requests

A text that answers a pending request moves that request, and no other, from the table to the
answers; any other text leaves the session as it was.  A request that cannot be sent only uses up
its id.  A request that its caller has stopped waiting for leaves neither a slot nor an answer.

## Case analyses

The functions of a session are not opened outside of this module.  Each has a lemma that lists its
outcomes with everything that has changed: `Session.request_cases`, `Session.read_of_answers` and
`Session.read_of_foreign`, `Conversation.call_cases`, `Conversation.poll_cases`.  They are stated as
equations of whole sessions, so that what has not changed need not be said.

`Link.requests` are the ids of the requests that were ever queued.  Reading adds none, since what a
reader queues are acknowledgements.
-/

namespace LanguageBridge

namespace Message

/-- The id of a message that expects a reply. -/
def requestId? : Message → Option Nat
  | .request id _ _ => some id
  | .notification _ _ => none
  | .acknowledgement _ => none

end Message

namespace Link

/-- The ids of the requests that a link has carried, the oldest one first. -/
def requests (l : Link Message) : List Nat := l.frames.filterMap Message.requestId?

/-- A message that is no request does not count as one. -/
theorem requests_of_send {l l' : Link Message} {m : Message} (sent : l.send m = .ok l')
    (reply : m.requestId? = none) : l'.requests = l.requests := by
  rw [send_eq sent]
  simp [requests, frames, Outbound.frame?, reply]

/-- A request that is sent is the last one carried. -/
theorem requests_of_request {l l' : Link Message} {id : Nat} {method : String} {params : Json}
    (sent : l.send (.request id method params) = .ok l') : l'.requests = l.requests ++ [id] := by
  rw [send_eq sent]
  simp [requests, frames, Outbound.frame?, Message.requestId?]

/-- The ids of the requests are told by the frames. -/
theorem requests_of_frames {l l' : Link Message} (frames : l'.frames = l.frames) :
    l'.requests = l.requests := by
  rw [requests, requests, frames]

/-- A text that is taken from the link is no frame. -/
theorem requests_receive (l : Link Message) : l.receive.2.requests = l.requests := by
  unfold receive
  split <;> rfl

end Link

/-! ## Texts -/

namespace Json

theorem isNull_of_int64? {v : Json} {n : Int} (whole : v.int64? = some n) : v.isNull = false := by
  cases v with
  | null => cases whole
  | bool _ => rfl
  | number _ => rfl
  | text _ => rfl
  | list _ => rfl
  | object _ => rfl

end Json

/-- A text answers a request just if it is read as the reply to it. -/
theorem answers_iff {text : String} {id : Nat} {outcome : Outcome} :
    Answers text id outcome ↔ Session.Incoming.ofText text = .reply id outcome := by
  unfold Answers Session.Incoming.ofText Session.Incoming.ofJson
  cases Json.read? text with
  | none => simp
  | some message =>
      simp only [Option.some.injEq, exists_eq_left']
      cases message.get? "id" with
      | none => simp
      | some v =>
          cases (message.get? "method").bind Json.text? with
          | some _ => cases null : v.isNull <;> simp [Option.filter, null]
          | none =>
              cases whole : v.int64? with
              | none => cases null : v.isNull <;> simp [Option.filter, null, whole]
              | some n =>
                  have null := Json.isNull_of_int64? whole
                  simp [Option.filter, null, whole, eq_comm]

namespace Session

variable {s : Session} {l : Link Message} {text : String}

/-- The pending request that an id belongs to is the one equal to it. -/
theorem pendingId?_eq_some_iff {n : Int} {id : Nat} :
    s.pendingId? n = some id ↔ id ∈ s.pending ∧ (id : Int) = n := by
  have sound : ∀ p, s.pendingId? n = some p → p ∈ s.pending ∧ (p : Int) = n := by
    intro p found
    unfold pendingId? at found
    exact ⟨List.mem_of_find?_eq_some found, by simpa using List.find?_some found⟩
  refine ⟨sound id, ?_⟩
  rintro ⟨pending, rfl⟩
  cases found : s.pendingId? id with
  | none => exact absurd (decide_eq_true rfl) (List.find?_eq_none.1 found id pending)
  | some p => rw [Int.ofNat_inj.1 (sound p found).2]

/-- A text that answers a pending request settles it, and changes nothing else. -/
theorem read_of_answers {id : Nat} {outcome : Outcome} (answers : Answers text id outcome)
    (pending : id ∈ s.pending) :
    s.read l text
      = ({ s with
            pending := s.pending.filter (· ≠ id), answers := s.answers ++ [(id, outcome)] }, l) := by
  have found : s.pendingId? id = some id := pendingId?_eq_some_iff.2 ⟨pending, rfl⟩
  unfold read
  rw [answers_iff.1 answers]
  simp only [found, answer, if_pos pending]

/-- A text that answers no pending request leaves the session as it was. -/
theorem read_of_foreign (foreign : ∀ id outcome, Answers text id outcome → id ∉ s.pending) :
    (s.read l text).1 = s := by
  unfold read
  split
  · rename_i n outcome incoming
    split
    · rename_i id found
      obtain ⟨pending, same⟩ := pendingId?_eq_some_iff.1 found
      -- The text would answer a pending request after all.
      have answers : Answers text id outcome := answers_iff.2 (by rw [incoming, same])
      exact absurd pending (foreign id outcome answers)
    · rfl
  · split
    · rfl
    · rfl
  · rfl

/-- No request goes out because a text is read. -/
theorem requests_read (s : Session) (l : Link Message) (text : String) :
    (s.read l text).2.requests = l.requests := by
  unfold read
  split
  · split
    · rfl
    · rfl
  · split
    · rename_i sent
      exact Link.requests_of_send sent rfl
    · rfl
  · rfl

/-- A request either goes out under the next id and is pending, or leaves everything but the next id
as it was. -/
theorem request_cases (s : Session) (l : Link Message) (method : String) (params : Json) :
    (∃ e n, s.nextId ≤ n ∧ s.request l method params = (.error e, { s with nextId := n }, l)) ∨
      ∃ link, s.disposed = false ∧ l.send (.request s.nextId method params) = .ok link ∧
        s.request l method params
          = (.ok s.nextId,
              { s with nextId := s.nextId + 1, pending := s.pending ++ [s.nextId] }, link) := by
  unfold request
  cases usable : s.inspect l.state with
  | error e => exact .inl ⟨e, s.nextId, Nat.le_refl _, rfl⟩
  | ok _ =>
      simp only []
      cases sent : l.send (.request s.nextId method params) with
      | error e => exact .inl ⟨e, s.nextId + 1, Nat.le_succ _, rfl⟩
      | ok link =>
          have open_ := (s.inspect_eq_ok_iff l.state).1 usable
          exact .inr ⟨link, open_.1, rfl, rfl⟩

/-- The end of a handshake touches no request. -/
theorem finishHandshake_keeps {s' : Session} {l' : Link Message} {outcome : Outcome}
    {result : Except Failure Server.Capabilities}
    (finished : s.finishHandshake l outcome = (result, s', l')) :
    (∃ capabilities, s' = { s with capabilities }) ∧ l'.requests = l.requests := by
  unfold finishHandshake at finished
  split at finished
  · cases finished
    exact ⟨⟨s.capabilities, rfl⟩, rfl⟩
  · simp only [] at finished
    split at finished
    · cases finished
      exact ⟨⟨_, rfl⟩, rfl⟩
    · rename_i told
      cases finished
      exact ⟨⟨_, rfl⟩, Link.requests_of_send (notify_eq told) rfl⟩

/-- A request that is refused is over for its caller at once. -/
theorem call_of_refused {s' : Session} {l' : Link Message} {method : String} {params : Json}
    {e : Failure} (refused : s.request l method params = (.error e, s', l')) (now : Nat)
    (timeout : Duration) : s.call l now timeout method params = (.over (.error e), s', l') := by
  rw [call, refused]

/-- A request that goes out has a caller that waits, unless there is no time at all. -/
theorem call_of_sent {s' : Session} {l' : Link Message} {method : String} {params : Json} {id : Nat}
    (sent : s.request l method params = (.ok id, s', l')) (now : Nat) (timeout : Duration) :
    s.call l now timeout method params = (.over (.error .timeout), s'.abandon id, l') ∨
      ∃ due, s.call l now timeout method params = (.waiting id due, s', l') := by
  rw [call, sent]
  by_cases late : Duration.dueAt now timeout ≤ now
  · exact .inl (if_pos late)
  · exact .inr ⟨_, if_neg late⟩

/-- An answer is collected by giving up a request that is not pending any more. -/
theorem collect_of_answered {id : Nat} {outcome : Outcome}
    (answered : s.answers.lookup id = some outcome) (settled : id ∉ s.pending) :
    s.collect id = (some outcome, s.abandon id) := by
  have kept : s.pending.filter (· ≠ id) = s.pending := by
    refine List.filter_eq_self.2 fun other mem => decide_eq_true ?_
    rintro rfl
    exact settled mem
  simp only [collect, answered, abandon, kept]

end Session

namespace Conversation

variable {c : Conversation} {id : Nat}

/-- A request that has gone out over the link, with a caller that waits for it. -/
def posted (c : Conversation) (link : Link Message) : Conversation :=
  { session :=
      { c.session with
        nextId := c.session.nextId + 1, pending := c.session.pending ++ [c.session.nextId] }
    link
    waiting := c.waiting ++ [c.session.nextId]
    log := c.log ++ [.sent c.session.nextId] }

/-- A request for which nobody waits any more, because of an event. -/
def finish (c : Conversation) (id : Nat) (e : Event) : Conversation :=
  { c with
    session := c.session.abandon id, waiting := c.waiting.filter (· ≠ id), log := c.log ++ [e] }

/-- A call either fails, with nothing but the next id changed, or its request goes out; then its
caller waits, or has run out of time at once. -/
theorem call_cases (unknown : c.session.nextId ∉ c.waiting) (now : Nat) (timeout : Duration)
    (method : String) (params : Json) :
    (∃ e n, c.session.nextId ≤ n ∧
        (c.session.call c.link now timeout method params).1 = .over (.error e) ∧
        c.call now timeout method params = { c with session := { c.session with nextId := n } }) ∨
      ∃ link, c.session.disposed = false ∧
        c.link.send (.request c.session.nextId method params) = .ok link ∧
        (c.call now timeout method params = c.posted link ∨
          c.call now timeout method params
            = (c.posted link).finish c.session.nextId
                (.told c.session.nextId (.error .timeout))) := by
  rcases c.session.request_cases c.link method params with
    ⟨e, n, later, refused⟩ | ⟨link, usable, sent, accepted⟩
  · have failed := Session.call_of_refused refused now timeout
    refine .inl ⟨e, n, later, ?_, ?_⟩
    · rw [failed]
    · rw [call, refused, failed]
  · refine .inr ⟨link, usable, sent, ?_⟩
    rcases Session.call_of_sent accepted now timeout with late | ⟨due, waits⟩
    · refine .inr ?_
      have kept : (c.waiting ++ [c.session.nextId]).filter (· ≠ c.session.nextId) = c.waiting := by
        rw [List.filter_append, List.filter_eq_self.2]
        · simp
        · rintro other mem
          refine decide_eq_true ?_
          rintro rfl
          exact unknown mem
      rw [call, accepted, late]
      simp only [finish, posted, kept, List.append_assoc, List.cons_append, List.nil_append]
    · refine .inl ?_
      rw [call, accepted, waits]
      rfl

/-- A call whose caller waits has sent its request under the next id. -/
theorem call_of_waiting {now due : Nat} {timeout : Duration} {method : String} {params : Json}
    {session : Session} {link : Link Message}
    (called : c.session.call c.link now timeout method params = (.waiting id due, session, link)) :
    id = c.session.nextId ∧
      c.call now timeout method params
        = ⟨session, link, c.waiting ++ [id], c.log ++ [.sent id]⟩ := by
  rcases c.session.request_cases c.link method params with
    ⟨e, n, -, refused⟩ | ⟨link', -, -, accepted⟩
  · rw [Session.call_of_refused refused now timeout] at called
    cases called
  · rcases Session.call_of_sent accepted now timeout with late | ⟨due', waits⟩
    · rw [late] at called
      cases called
    · rw [waits] at called
      cases called
      exact ⟨rfl, by rw [call, accepted, waits]⟩

/-- A call that is over at once has a caller that does not wait. -/
theorem call_of_over {now : Nat} {timeout : Duration} {method : String} {params : Json}
    {outcome : Outcome} {session : Session} {link : Link Message}
    (called : c.session.call c.link now timeout method params = (.over outcome, session, link)) :
    ∃ log, c.call now timeout method params = ⟨session, link, c.waiting, log⟩ := by
  unfold call
  rw [called]
  cases (c.session.request c.link method params).1 with
  | error e => exact ⟨_, rfl⟩
  | ok id => exact ⟨_, rfl⟩

/-- A caller that looks for its answer is told it, is out of time, or goes on waiting. -/
theorem poll_cases (waits : id ∈ c.waiting)
    (apart : ∀ outcome, (id, outcome) ∈ c.session.answers → id ∉ c.session.pending) (now due : Nat) :
    (∃ outcome, (id, outcome) ∈ c.session.answers ∧
        c.poll id now due = c.finish id (.told id outcome)) ∨
      (∀ outcome, (id, outcome) ∉ c.session.answers) ∧
        c.poll id now due
          = if due ≤ now then c.finish id (.told id (.error .timeout)) else c := by
  unfold poll Session.resume
  rw [if_pos waits]
  cases answered : c.session.answers.lookup id with
  | some outcome =>
      obtain ⟨before, after, split, -⟩ := List.lookup_eq_some_iff.1 answered
      have mem : (id, outcome) ∈ c.session.answers := by simp [split]
      rw [Session.collect_of_answered answered (apart outcome mem)]
      exact .inl ⟨outcome, mem, rfl⟩
  | none =>
      have absent := List.lookup_eq_none_iff.1 answered
      refine .inr ⟨fun outcome mem => absurd (absent _ mem) (by simp), ?_⟩
      have nothing : c.session.collect id = (.none, c.session) := by
        simp only [Session.collect, answered]
      rw [nothing]
      by_cases late : due ≤ now
      · simp only [if_pos late]
        rfl
      · simp only [if_neg late]

end Conversation
end LanguageBridge
