import LanguageBridge.Proofs.Session.Faithful

/-!
# Requests and answers are matched exactly

However its deeds are interleaved, a conversation keeps its requests and the texts of the server
apart: every request is answered by the first text that answers it, or fails with the session, or
is given up, once and for all, and nothing else has any effect on it.

## The statement

`Conversation.Exact` is a structure with one field for each part of this, and
`multiplexing_is_exact` says it of every conversation that comes from a fresh one by any deeds.  Its
fields are of two kinds.

* Some tell what the present state has to do with the log: what is pending, who waits, whether the
  session is over.  They are read off `Faithful`, which every deed keeps.
* Others tell what a text, a request or the end of the session will do next, and they are read off
  the definitions of a session together with `Faithful`.

`decided` and `silent` speak of all that can still happen, so they use that the log only grows.
-/

namespace LanguageBridge
namespace Conversation

variable {c : Conversation} {id : Nat}

/-! ## The log only grows -/

/-- A request that is sent, and perhaps is over at once, adds to the log. -/
theorem log_call (c : Conversation) (now : Nat) (timeout : Duration) (method : String)
    (params : Json) : c.log <+: (c.call now timeout method params).log := by
  unfold call
  simp only []
  split
  · exact List.prefix_rfl
  · exact List.prefix_append _ _
  · exact List.prefix_append _ _

/-- A caller that looks for its answer may be told, which is added. -/
theorem log_poll (c : Conversation) (id now due : Nat) : c.log <+: (c.poll id now due).log := by
  unfold poll
  split
  · split
    · exact List.prefix_rfl
    · exact List.prefix_append _ _
  · exact List.prefix_rfl

theorem log_drop (c : Conversation) (id : Nat) : c.log <+: (c.drop id).log := by
  unfold drop
  split
  · exact List.prefix_append _ _
  · exact List.prefix_rfl

/-- A message that expects no reply is not written down. -/
theorem log_notify (c : Conversation) (m : Message) : c.log <+: (c.notify m).log := by
  unfold notify
  split
  · exact List.prefix_rfl
  · exact List.prefix_rfl

/-- A text that is read is added, and so is the end of the texts. -/
theorem log_read (c : Conversation) : c.log <+: c.read.log := by
  unfold read
  split
  · split
    · exact List.prefix_append _ _
    · split
      · exact List.prefix_rfl
      · exact List.prefix_append _ _
  · exact List.prefix_rfl

/-- A session is disposed of once, and that is added. -/
theorem log_dispose (c : Conversation) : c.log <+: c.dispose.log := by
  unfold dispose
  split
  · exact List.prefix_rfl
  · exact List.prefix_append _ _

/-- Every deed adds to the log, if it touches it at all. -/
theorem log_act (c : Conversation) (deed : Deed) : c.log <+: (c.act deed).log := by
  cases deed with
  | call now timeout method params => exact c.log_call now timeout method params
  | poll id now due => exact c.log_poll id now due
  | drop id => exact c.log_drop id
  | notify method params => exact c.log_notify _
  | greeted outcome => exact List.prefix_rfl
  | read => exact c.log_read
  | dispose => exact c.log_dispose
  | _ => exact List.prefix_rfl

/-- **Nothing is ever taken back.** -/
theorem log_acts (c : Conversation) (deeds : List Deed) : c.log <+: (c.acts deeds).log := by
  induction deeds generalizing c with
  | nil => exact List.prefix_rfl
  | cons deed rest ih => exact (c.log_act deed).trans (ih (c.act deed))

/-! ## What follows -/

/-- A request that is refused is over for its caller, and leaves the conversation as it was but
for an id. -/
theorem call_of_refused {timeout : Duration} {method : String} {params : Json} {e : Failure}
    (refused : (c.session.request c.link method params).1 = .error e) (now : Nat) :
    (c.session.call c.link now timeout method params).1 = .over (.error e) ∧
      ∃ n, c.session.nextId ≤ n ∧
        c.call now timeout method params = { c with session := { c.session with nextId := n } } := by
  rcases c.session.request_cases c.link method params with
    ⟨e', n, later, same⟩ | ⟨link, -, -, same⟩
  · rw [same] at refused
    cases refused
    have failed := Session.call_of_refused same now timeout
    refine ⟨by rw [failed], n, later, ?_⟩
    rw [Conversation.call, same, failed]
  · rw [same] at refused
    cases refused

/-- A request that can be sent goes out under the next id, even if its caller has no time to
wait. -/
theorem call_of_accepted {timeout : Duration} {method : String} {params : Json}
    (accepted : (c.session.request c.link method params).1 = .ok id) (now : Nat) :
    id = c.session.nextId ∧
      (c.call now timeout method params).link.requests = c.link.requests ++ [id] := by
  rcases c.session.request_cases c.link method params with ⟨e, n, -, same⟩ | ⟨link, -, sent, same⟩
  · rw [same] at accepted
    cases accepted
  · rw [same] at accepted
    cases accepted
    refine ⟨rfl, ?_⟩
    rw [← Link.requests_of_request sent]
    rcases Session.call_of_sent same now timeout with late | ⟨due, waits⟩
    · rw [call, same, late]
    · rw [call, same, waits]

/-- A conversation whose requests and answers are matched exactly. -/
structure Exact (c : Conversation) : Prop where
  /-- Requests go out under ever greater ids, so that none is used twice. -/
  increasing : c.link.requests.Pairwise (· < ·)
  sent : c.link.requests = c.log.filterMap Event.sent?
  /-- The table has one slot for each request that was sent and that nothing has settled since: no
  answer, no end of its caller's wait, and no end of the session. -/
  nodup : c.session.pending.Nodup
  pending : ∀ id, id ∈ c.session.pending ↔ Outstanding c.log id
  /-- A request that can be sent goes out under the next id. -/
  accepted : ∀ now timeout method params id,
    (c.session.request c.link method params).1 = .ok id →
      id = c.session.nextId ∧
        (c.call now timeout method params).link.requests = c.link.requests ++ [id]
  /-- A request that cannot be sent fails, and uses up an id at most. -/
  refused : ∀ now timeout method params e, (c.session.request c.link method params).1 = .error e →
    (c.session.call c.link now timeout method params).1 = .over (.error e) ∧
      ∃ n, c.session.nextId ≤ n ∧
        c.call now timeout method params = { c with session := { c.session with nextId := n } }
  /-- A text that answers a pending request gives it its outcome, and touches no other request. -/
  routed : ∀ link text id outcome, Answers text id outcome → id ∈ c.session.pending →
    c.session.read link text
      = ({ c.session with
            pending := c.session.pending.filter (· ≠ id)
            answers := c.session.answers ++ [(id, outcome)] }, link)
  /-- Any other text touches none. -/
  ignored : ∀ link text, (∀ id outcome, Answers text id outcome → id ∉ c.session.pending) →
    (c.session.read link text).1 = c.session
  /-- A request ends with the outcome that was given to it first, or because its caller ran out of
  time while it was outstanding. -/
  completed : ∀ before id outcome after, c.log = before ++ .told id outcome :: after →
    Decided before id outcome ∨ Outstanding before id ∧ outcome = .error .timeout
  /-- An outcome once given is the only one with which the request can still end. -/
  decided : ∀ id outcome, Decided c.log id outcome →
    ∀ deeds other, .told id other ∈ (c.acts deeds).log → other = outcome
  /-- A request ends once at most. -/
  once : (c.log.filterMap Event.closed?).Nodup
  /-- As long as it has not ended its caller waits, ... -/
  waiting : ∀ id, id ∈ c.waiting ↔ .sent id ∈ c.log ∧ id ∉ c.log.filterMap Event.closed?
  /-- ... and is told the outcome that was given, or goes on waiting until its time is up. -/
  polled : ∀ id ∈ c.waiting, ∀ now due,
    (∃ outcome, Decided c.log id outcome ∧ c.poll id now due = c.finish id (.told id outcome)) ∨
      Outstanding c.log id ∧
        c.poll id now due = if due ≤ now then c.finish id (.told id (.error .timeout)) else c
  /-- A session is over when it was disposed of or the texts have ended. -/
  finished : c.session.disposed = true ↔ .disposed ∈ c.log ∨ .ended ∈ c.log
  /-- Then its table is empty, for ever. -/
  silent : c.session.disposed = true → ∀ deeds,
    (c.acts deeds).session.disposed = true ∧ (c.acts deeds).session.pending = []
  /-- The requests that were pending have failed with the session. -/
  failed : ∀ id ∈ c.session.pending, Decided c.dispose.log id (.error .sessionDisposed)
  lost : ∀ id ∈ c.session.pending, .ended ∈ c.read.log →
    Decided c.read.log id (.error .connectionClosed)

namespace Faithful

/-- A session with a pending request is not over. -/
theorem usable (f : Faithful c) (pending : id ∈ c.session.pending) :
    c.session.disposed = false := by
  refine Bool.eq_false_iff.2 fun gone => ?_
  rw [f.empty gone] at pending
  cases pending

/-- What was decided is what the caller is told, whenever that is. -/
theorem decided (f : Faithful c) {outcome other : Outcome} (decided : Decided c.log id outcome)
    (deeds : List Deed) (told : .told id other ∈ (c.acts deeds).log) : other = outcome := by
  have later := f.acts deeds
  obtain ⟨more, grown⟩ := c.log_acts deeds
  have still : Decided (c.acts deeds).log id outcome := grown ▸ decided.append more
  obtain ⟨before, after, split⟩ := List.append_of_mem told
  have once := later.sentOnce
  rcases later.completed before id other after split with first | ⟨outstanding, -⟩
  · -- The caller was told an outcome that had been given, and there is only one.
    have both : Decided (c.acts deeds).log id other := split ▸ first.append _
    exact both.unique once still
  · -- The caller ran out of time first, but then nothing was given to the request at all.
    rw [split] at once still
    exact absurd still (Decided.not_of_told once outstanding)

/-- A session that is over stays over, with nothing pending. -/
theorem silent (f : Faithful c) (gone : c.session.disposed = true) (deeds : List Deed) :
    (c.acts deeds).session.disposed = true ∧ (c.acts deeds).session.pending = [] := by
  have later := f.acts deeds
  have grown := (c.log_acts deeds).subset
  have still := later.disposed.2
    ((f.disposed.1 gone).imp (fun mem => grown mem) fun mem => grown mem)
  exact ⟨still, later.empty still⟩

/-- Disposing of a session fails what is pending, as disposed. -/
theorem failed (f : Faithful c) (pending : id ∈ c.session.pending) :
    Decided c.dispose.log id (.error .sessionDisposed) := by
  have log : c.dispose.log = c.log ++ [.disposed] := by
    simp only [Conversation.dispose, f.usable pending]
    rfl
  rw [log]
  exact ((f.pending id).1 pending).decided rfl

/-- The end of the texts fails what is pending, as closed. -/
theorem lost (f : Faithful c) (pending : id ∈ c.session.pending) (ended : .ended ∈ c.read.log) :
    Decided c.read.log id (.error .connectionClosed) := by
  have fresh : .ended ∉ c.log := fun mem =>
    absurd (f.disposed.2 (.inr mem)) (by simp [f.usable pending])
  have log : c.read.log = c.log ++ [.ended] := by
    revert ended
    unfold Conversation.read
    split
    · split
      · simp [fresh]
      · split
        · simp [fresh]
        · exact fun _ => rfl
    · simp [fresh]
  rw [log]
  exact ((f.pending id).1 pending).decided rfl

theorem exact (f : Faithful c) : Exact c where
  increasing := f.wire ▸ f.increasing
  sent := f.wire
  nodup := f.nodup
  pending := f.pending
  accepted := fun now _ _ _ _ accepted => call_of_accepted accepted now
  refused := fun now _ _ _ _ refused => call_of_refused refused now
  routed := fun _ _ _ _ answers pending => Session.read_of_answers answers pending
  ignored := fun _ _ foreign => Session.read_of_foreign foreign
  completed := f.completed
  decided := fun _ _ decided deeds _ told => f.decided decided deeds told
  once := f.once
  waiting := f.waiting
  polled := fun _ waits now due => f.poll_eq waits now due
  finished := f.disposed
  silent := f.silent
  failed := fun _ pending => f.failed pending
  lost := fun _ pending ended => f.lost pending ended

end Faithful

/-- However calls, texts of the server, callers that run out of time or give up, and the end of the
session are interleaved, requests and answers are matched exactly. -/
theorem multiplexing_is_exact (state : SocketState) (languageId : String)
    (requestTimeout : Duration) (deeds : List Deed) :
    Exact ((fresh state languageId requestTimeout).acts deeds) :=
  ((Faithful.fresh state languageId requestTimeout).acts deeds).exact

end Conversation
end LanguageBridge
