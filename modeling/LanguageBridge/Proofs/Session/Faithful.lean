import LanguageBridge.Proofs.Session.Routing

/-!
# Conversations keep track of their requests

`Ledger` says what the ids and the callers that wait have to do with what has happened so far, and
`Faithful` what the table of pending requests and the answers that nobody has collected have to do
with it besides.  A fresh conversation is faithful, and every deed keeps it so: a deed that leaves
the log alone changes nothing of it, and the others send a request (`Faithful.posted`) or settle
some (`Faithful.append`).

## Why two structures

A ledger is about callers: a request is sent, and at some time its caller is told or gives up.  The
table is about the server: a request is sent, and at some time a text answers it or the session
ends.  Between the two an answer lies about, settled but not told, and the clauses `answered` and
`served` say that it is kept for exactly the callers that still wait.

## The step

Each deed is put down to one of three lemmas.

* `Faithful.of_same`: nothing was written down.
* `Faithful.posted`: a request went out under the next id, and its caller waits.
* `Faithful.append`: an event was written down that settles requests or ends a wait.  It has most of
  the work, and asks of the new table and the new answers just what the event does to them.
-/

namespace LanguageBridge

namespace Event

theorem mem_sent_iff {log : List Event} {id : Nat} :
    id ∈ log.filterMap sent? ↔ .sent id ∈ log := by
  rw [List.mem_filterMap]
  constructor
  · rintro ⟨e, mem, sent⟩
    cases e with
    | sent other => cases sent; exact mem
    | _ => cases sent
  · intro mem
    exact ⟨.sent id, mem, rfl⟩

/-- One more event contributes to a list of some kind, or does not. -/
theorem filterMap_snoc {α : Type} (kind? : Event → Option α) (log : List Event) (e : Event) :
    (log ++ [e]).filterMap kind? = log.filterMap kind? ++ (kind? e).toList := by
  rw [List.filterMap_append]
  cases kind : kind? e <;> simp [kind]

/-- Ending the wait for a request settles that request and no other. -/
theorem settles_iff_of_closed {e : Event} {id : Nat} (closes : e.closed? = some id) (other : Nat) :
    e.Settles other ↔ other = id := by
  cases e with
  | told _ _ => cases closes; exact eq_comm
  | dropped _ => cases closes; exact eq_comm
  | _ => cases closes

/-- Any other event that settles a request gives it an outcome. -/
theorem closed_or_gives {e : Event} {id : Nat} (settles : e.Settles id) :
    e.closed? = some id ∨ ∃ outcome, e.Gives id outcome := by
  cases e with
  | sent _ => cases settles
  | read _ => exact .inr settles
  | told _ _ => exact .inl (congrArg some settles)
  | dropped _ => exact .inl (congrArg some settles)
  | disposed => exact .inr ⟨_, rfl⟩
  | ended => exact .inr ⟨_, rfl⟩

/-- An answer that is given does not yet end the wait. -/
theorem Gives.closed? {e : Event} {id : Nat} {outcome : Outcome} (gives : e.Gives id outcome) :
    e.closed? = none := by
  cases e with
  | told _ _ => cases gives
  | dropped _ => cases gives
  | _ => rfl

end Event

/-! ## The ledger

Only ids are counted here.  That they increase is what makes the id of a request a name for it. -/

/-- The requests that were sent and those whose callers wait, as the log tells. -/
structure Ledger (nextId : Nat) (requests waits : List Nat) (log : List Event) : Prop where
  below : ∀ id, .sent id ∈ log → id < nextId
  increasing : (log.filterMap Event.sent?).Pairwise (· < ·)
  wire : requests = log.filterMap Event.sent?
  waiting : ∀ id, id ∈ waits ↔ .sent id ∈ log ∧ id ∉ log.filterMap Event.closed?
  closed : ∀ id ∈ log.filterMap Event.closed?, .sent id ∈ log
  once : (log.filterMap Event.closed?).Nodup
  completed : ∀ before id outcome after, log = before ++ .told id outcome :: after →
    Decided before id outcome ∨ Outstanding before id ∧ outcome = .error .timeout

namespace Ledger

variable {nextId : Nat} {requests waits : List Nat} {log : List Event}

/-- Ids may be used up. -/
theorem mono (ledger : Ledger nextId requests waits log) {later : Nat} (le : nextId ≤ later) :
    Ledger later requests waits log :=
  { ledger with below := fun id mem => Nat.lt_of_lt_of_le (ledger.below id mem) le }

/-- The next id has not been used. -/
theorem nextId_notMem (ledger : Ledger nextId requests waits log) : nextId ∉ waits := by
  intro mem
  exact Nat.lt_irrefl _ (ledger.below _ ((ledger.waiting _).1 mem).1)

/-- No request is sent twice. -/
theorem sentOnce (ledger : Ledger nextId requests waits log) : SentOnce log :=
  ledger.increasing.imp fun smaller => Nat.ne_of_lt smaller

/-- A request goes out under the next id. -/
theorem sent (ledger : Ledger nextId requests waits log) :
    Ledger (nextId + 1) (requests ++ [nextId]) (waits ++ [nextId]) (log ++ [.sent nextId]) := by
  have same : (log ++ [Event.sent nextId]).filterMap Event.closed?
      = log.filterMap Event.closed? := by
    simp [Event.closed?]
  have new : nextId ∉ log.filterMap Event.closed? := fun mem =>
    Nat.lt_irrefl _ (ledger.below _ (ledger.closed _ mem))
  exact
    { below := by
        intro id mem
        rcases List.mem_append.1 mem with old | last
        · exact Nat.lt_succ_of_lt (ledger.below id old)
        · cases List.mem_singleton.1 last
          exact Nat.lt_succ_self _
      increasing := by
        rw [Event.filterMap_snoc]
        refine List.pairwise_append.2 ⟨ledger.increasing, List.pairwise_singleton _ _, ?_⟩
        intro id mem last single
        rw [List.mem_singleton.1 single]
        exact ledger.below id (Event.mem_sent_iff.1 mem)
      wire := by
        rw [Event.filterMap_snoc, ledger.wire]
        rfl
      waiting := by
        intro id
        rw [same]
        simp only [List.mem_append, List.mem_singleton, ledger.waiting id, Event.sent.injEq]
        by_cases last : id = nextId
        · subst last
          exact iff_of_true (.inr rfl) ⟨.inr rfl, new⟩
        · simp only [last, or_false]
      closed := by
        intro id mem
        rw [same] at mem
        exact List.mem_append_left _ (ledger.closed id mem)
      once := by
        rw [same]
        exact ledger.once
      completed := by
        intro before id outcome after split
        rcases snoc_eq_split split with ⟨-, other, -⟩ | ⟨rest, -, old⟩
        · cases other
        · exact ledger.completed before id outcome rest old }

/-- Any other event ends the wait for one request at most. -/
theorem append (ledger : Ledger nextId requests waits log) {waits' : List Nat} {e : Event}
    (noRequest : e.sent? = none)
    (left : ∀ id, id ∈ waits' ↔ id ∈ waits ∧ e.closed? ≠ some id)
    (open_ : ∀ id, e.closed? = some id → id ∈ waits)
    (fair : ∀ id outcome, e = .told id outcome →
      Decided log id outcome ∨ Outstanding log id ∧ outcome = .error .timeout) :
    Ledger nextId requests waits' (log ++ [e]) := by
  have sent : (log ++ [e]).filterMap Event.sent? = log.filterMap Event.sent? := by
    simp [noRequest]
  have mem : ∀ id, .sent id ∈ log ++ [e] ↔ .sent id ∈ log := by
    intro id
    rw [← Event.mem_sent_iff, sent, Event.mem_sent_iff]
  have closed : ∀ id, id ∈ (log ++ [e]).filterMap Event.closed? ↔
      id ∈ log.filterMap Event.closed? ∨ e.closed? = some id := by
    intro id
    rw [Event.filterMap_snoc, List.mem_append, Option.mem_toList]
  exact
    { below := fun id mem' => ledger.below id ((mem id).1 mem')
      increasing := sent.symm ▸ ledger.increasing
      wire := ledger.wire.trans sent.symm
      waiting := by
        intro id
        rw [left, ledger.waiting, mem, closed, not_or, and_assoc]
      closed := by
        intro id mem'
        refine (mem id).2 ?_
        rcases (closed id).1 mem' with old | new
        · exact ledger.closed id old
        · exact ((ledger.waiting id).1 (open_ id new)).1
      once := by
        have single : e.closed?.toList.Nodup := by cases e.closed? <;> simp
        rw [Event.filterMap_snoc]
        refine List.nodup_append.2 ⟨ledger.once, single, ?_⟩
        rintro id old last new rfl
        -- Somebody waits for this request, so the wait for it has not ended before.
        have waits : id ∈ waits := open_ id (Option.mem_toList.1 new)
        exact ((ledger.waiting id).1 waits).2 old
      completed := by
        intro before id outcome after split
        rcases snoc_eq_split split with ⟨rfl, same, -⟩ | ⟨rest, -, old⟩
        · exact fair id outcome same
        · exact ledger.completed before id outcome rest old }

end Ledger

/-! ## The table and the answers

The state of the session is brought in: which requests it still knows, and which answers wait for
their callers. -/

namespace Conversation

/-- How the state of a conversation reflects what has happened. -/
structure Faithful (c : Conversation) : Prop
    extends Ledger c.session.nextId c.link.requests c.waiting c.log where
  nodup : c.session.pending.Nodup
  pending : ∀ id, id ∈ c.session.pending ↔ Outstanding c.log id
  awaited : ∀ id ∈ c.session.pending, id ∈ c.waiting
  answered : ∀ id outcome, (id, outcome) ∈ c.session.answers →
    id ∈ c.waiting ∧ id ∉ c.session.pending ∧ Decided c.log id outcome
  served : ∀ id ∈ c.waiting,
    id ∈ c.session.pending ∨ ∃ outcome, (id, outcome) ∈ c.session.answers
  disposed : c.session.disposed = true ↔ .disposed ∈ c.log ∨ .ended ∈ c.log
  empty : c.session.disposed = true → c.session.pending = []

namespace Faithful

variable {c c' : Conversation} {id : Nat}

theorem fresh (state : SocketState) (languageId : String) (requestTimeout : Duration) :
    Faithful (.fresh state languageId requestTimeout) where
  below := by simp [Conversation.fresh]
  increasing := List.Pairwise.nil
  wire := rfl
  nodup := List.nodup_nil
  pending := by simp [Conversation.fresh, Session.fresh, Outstanding]
  waiting := by simp [Conversation.fresh]
  closed := by simp [Conversation.fresh]
  once := List.nodup_nil
  awaited := by simp [Conversation.fresh, Session.fresh]
  answered := by simp [Conversation.fresh, Session.fresh]
  served := by simp [Conversation.fresh]
  completed := by simp [Conversation.fresh]
  disposed := by simp [Conversation.fresh, Session.fresh]
  empty := fun _ => rfl

/-- Some ids may be used up, and the link may go on without carrying a request. -/
theorem of_same (f : Faithful c) (nextId : c.session.nextId ≤ c'.session.nextId)
    (pending : c'.session.pending = c.session.pending)
    (answers : c'.session.answers = c.session.answers)
    (disposed : c'.session.disposed = c.session.disposed)
    (requests : c'.link.requests = c.link.requests) (waiting : c'.waiting = c.waiting)
    (log : c'.log = c.log) : Faithful c' where
  toLedger := by
    rw [requests, waiting, log]
    exact f.toLedger.mono nextId
  nodup := by rw [pending]; exact f.nodup
  pending := by rw [pending, log]; exact f.pending
  awaited := by rw [pending, waiting]; exact f.awaited
  answered := by rw [answers, waiting, pending, log]; exact f.answered
  served := by rw [waiting, pending, answers]; exact f.served
  disposed := by rw [disposed, log]; exact f.disposed
  empty := by rw [disposed, pending]; exact f.empty

/-- Only the link has gone on, without carrying a request. -/
theorem link (f : Faithful c) {link : Link Message} (requests : link.requests = c.link.requests) :
    Faithful { c with link } :=
  f.of_same (Nat.le_refl _) rfl rfl rfl requests rfl rfl

/-- A request goes out. -/
theorem posted (f : Faithful c) {link : Link Message} {method : String} {params : Json}
    (usable : c.session.disposed = false)
    (sent : c.link.send (.request c.session.nextId method params) = .ok link) :
    Faithful (c.posted link) where
  toLedger := by
    have ledger := f.toLedger.sent
    rw [← Link.requests_of_request sent] at ledger
    exact ledger
  nodup := by
    refine List.nodup_append.2 ⟨f.nodup, List.pairwise_singleton _ _, ?_⟩
    rintro id mem other new rfl
    rw [List.mem_singleton.1 new] at mem
    exact f.nextId_notMem (f.awaited _ mem)
  pending := by
    intro id
    simp only [Conversation.posted, List.mem_append, List.mem_singleton, f.pending id]
    by_cases new : id = c.session.nextId
    · subst new
      exact iff_of_true (.inr rfl) (outstanding_sent _ _)
    · have other : Event.sent c.session.nextId ≠ .sent id := by
        rintro ⟨⟩
        exact new rfl
      rw [outstanding_append other]
      simp [new, Event.Settles]
  awaited := by
    intro id mem
    rcases List.mem_append.1 mem with old | new
    · exact List.mem_append_left _ (f.awaited id old)
    · exact List.mem_append_right _ new
  answered := by
    intro id outcome mem
    obtain ⟨waits, settled, decided⟩ := f.answered id outcome mem
    refine ⟨List.mem_append_left _ waits, ?_, decided.append _⟩
    intro mem
    rcases List.mem_append.1 mem with old | new
    · exact settled old
    · rw [List.mem_singleton.1 new] at waits
      exact f.nextId_notMem waits
  served := by
    intro id mem
    rcases List.mem_append.1 mem with old | new
    · rcases f.served id old with pending | answered
      · exact .inl (List.mem_append_left _ pending)
      · exact .inr answered
    · exact .inl (List.mem_append_right _ new)
  disposed := by
    refine f.disposed.trans ?_
    simp [Conversation.posted]
  empty := by
    intro gone
    exact absurd (usable.symm.trans gone) (by simp)

/-- Any other event: it settles some requests, by answering them or by ending the wait for one. -/
theorem append (f : Faithful c) {session : Session} {link : Link Message} {waiting : List Nat}
    {e : Event} (noRequest : e.sent? = none)
    (nextId : session.nextId = c.session.nextId) (requests : link.requests = c.link.requests)
    (nodup : session.pending.Nodup)
    (pending : ∀ id, id ∈ session.pending ↔ id ∈ c.session.pending ∧ ¬e.Settles id)
    (waits : ∀ id, id ∈ waiting ↔ id ∈ c.waiting ∧ e.closed? ≠ some id)
    (answers : ∀ id outcome, (id, outcome) ∈ session.answers ↔
      (id, outcome) ∈ c.session.answers ∧ e.closed? ≠ some id ∨
        id ∈ c.session.pending ∧ e.Gives id outcome)
    (disposed : session.disposed = true ↔ c.session.disposed = true ∨ .disposed = e ∨ .ended = e)
    (open_ : ∀ id, e.closed? = some id → id ∈ c.waiting)
    (fair : ∀ id outcome, e = .told id outcome →
      Decided c.log id outcome ∨ Outstanding c.log id ∧ outcome = .error .timeout) :
    Faithful ⟨session, link, waiting, c.log ++ [e]⟩ where
  toLedger := by
    rw [requests, nextId]
    exact f.toLedger.append noRequest waits open_ fair
  nodup := nodup
  pending := by
    intro id
    have other : e ≠ .sent id := by
      rintro rfl
      cases noRequest
    rw [outstanding_append other, ← f.pending]
    exact pending id
  awaited := by
    intro id mem
    obtain ⟨before, unsettled⟩ := (pending id).1 mem
    have still : e.closed? ≠ some id := by
      intro closes
      exact unsettled ((Event.settles_iff_of_closed closes id).2 rfl)
    exact (waits id).2 ⟨f.awaited id before, still⟩
  answered := by
    intro id outcome mem
    rcases (answers id outcome).1 mem with ⟨old, still⟩ | ⟨before, gives⟩
    · obtain ⟨waits', settled, decided⟩ := f.answered id outcome old
      refine ⟨(waits id).2 ⟨waits', still⟩, ?_, decided.append _⟩
      intro mem
      exact settled ((pending id).1 mem).1
    · -- The event is the first one to settle the request, and gives it its outcome.
      have still : e.closed? ≠ some id := by simp [gives.closed?]
      have decided : Decided (c.log ++ [e]) id outcome := ((f.pending id).1 before).decided gives
      refine ⟨(waits id).2 ⟨f.awaited id before, still⟩, ?_, decided⟩
      intro mem
      exact ((pending id).1 mem).2 gives.settles
  served := by
    intro id mem
    obtain ⟨before, still⟩ := (waits id).1 mem
    rcases f.served id before with unsettled | ⟨outcome, answered⟩
    · by_cases settles : e.Settles id
      · -- Whatever settles a request whose caller goes on waiting gives it an outcome.
        rcases Event.closed_or_gives settles with closes | ⟨outcome, gives⟩
        · exact absurd closes still
        · exact .inr ⟨outcome, (answers id outcome).2 (.inr ⟨unsettled, gives⟩)⟩
      · exact .inl ((pending id).2 ⟨unsettled, settles⟩)
    · exact .inr ⟨outcome, (answers id outcome).2 (.inl ⟨answered, still⟩)⟩
  disposed := by
    refine disposed.trans ?_
    rw [f.disposed]
    simp only [List.mem_append, List.mem_singleton]
    exact or_or_or_comm ..
  empty := by
    intro gone
    refine List.eq_nil_iff_forall_not_mem.2 fun id mem => ?_
    obtain ⟨before, unsettled⟩ := (pending id).1 mem
    rcases disposed.1 gone with was | rfl | rfl
    · rw [f.empty was] at before
      cases before
    · -- The events that end the session settle every request.
      exact unsettled trivial
    · exact unsettled trivial

/-- Nobody waits for a request any more: its caller was told how it ended, or gave up. -/
theorem finish (f : Faithful c) {e : Event} (waits : id ∈ c.waiting)
    (closed : e.closed? = some id)
    (fair : ∀ other outcome, e = .told other outcome →
      Decided c.log other outcome ∨ Outstanding c.log other ∧ outcome = .error .timeout) :
    Faithful (c.finish id e) := by
  have noRequest : e.sent? = none := by
    cases e with
    | sent _ => cases closed
    | _ => rfl
  have usable : .disposed ≠ e ∧ .ended ≠ e := by
    constructor
    · rintro rfl
      cases closed
    · rintro rfl
      cases closed
  have gives : ∀ other outcome, ¬e.Gives other outcome := by
    intro other outcome gives
    rw [gives.closed?] at closed
    cases closed
  have same : ∀ other, e.closed? = some other ↔ other = id := by
    intro other
    rw [closed, Option.some.injEq]
    exact eq_comm
  refine f.append noRequest rfl rfl (f.nodup.filter _) ?_ ?_ ?_ ?_ ?_ fair
  · intro other
    rw [Event.settles_iff_of_closed closed]
    exact c.session.mem_pending_abandon id other
  · intro other
    simp [same other]
  · intro other outcome
    simp [Session.abandon, same other, gives]
  · simp [Session.abandon, usable]
  · intro other closes
    rw [(same other).1 closes]
    exact waits

/-! ### The deeds -/

/-- A request is refused, goes out, or goes out and is over at once. -/
theorem call (f : Faithful c) (now : Nat) (timeout : Duration) (method : String) (params : Json) :
    Faithful (c.call now timeout method params) := by
  rcases call_cases f.nextId_notMem now timeout method params with
    ⟨e, n, later, -, same⟩ | ⟨link, usable, sent, waits | late⟩
  · rw [same]
    exact f.of_same later rfl rfl rfl rfl rfl rfl
  · rw [waits]
    exact f.posted usable sent
  · rw [late]
    -- There was no time at all: the request has gone out, and is given up in the same moment.
    refine (f.posted usable sent).finish (List.mem_append_right _ (List.mem_singleton.2 rfl)) rfl ?_
    rintro other outcome ⟨⟩
    exact .inr ⟨outstanding_sent _ _, rfl⟩

/-- A caller that waits finds the outcome that was decided, or its request is outstanding still. -/
theorem poll_eq (f : Faithful c) (waits : id ∈ c.waiting) (now due : Nat) :
    (∃ outcome, Decided c.log id outcome ∧ c.poll id now due = c.finish id (.told id outcome)) ∨
      Outstanding c.log id ∧
        c.poll id now due
          = if due ≤ now then c.finish id (.told id (.error .timeout)) else c := by
  rcases poll_cases waits (fun outcome mem => (f.answered id outcome mem).2.1) now due with
    ⟨outcome, mem, same⟩ | ⟨none, same⟩
  · exact .inl ⟨outcome, (f.answered id outcome mem).2.2, same⟩
  · -- Without an answer the request must still be in the table.
    rcases f.served id waits with pending | ⟨outcome, mem⟩
    · exact .inr ⟨(f.pending id).1 pending, same⟩
    · exact absurd mem (none outcome)

/-- A caller that waits is told or waits on; anybody else is not listened to. -/
theorem poll (f : Faithful c) (id now due : Nat) : Faithful (c.poll id now due) := by
  by_cases waits : id ∈ c.waiting
  · rcases f.poll_eq waits now due with ⟨outcome, decided, same⟩ | ⟨outstanding, same⟩
    · rw [same]
      refine f.finish waits rfl ?_
      rintro other outcome ⟨⟩
      exact .inl decided
    · rw [same]
      split
      · refine f.finish waits rfl ?_
        rintro other outcome ⟨⟩
        exact .inr ⟨outstanding, rfl⟩
      · exact f
  · unfold Conversation.poll
    rw [if_neg waits]
    exact f

/-- A caller gives up, which leaves neither a slot nor an answer. -/
theorem drop (f : Faithful c) (id : Nat) : Faithful (c.drop id) := by
  unfold Conversation.drop
  split
  · rename_i waits
    refine f.finish (e := .dropped id) waits rfl ?_
    rintro other outcome ⟨⟩
  · exact f

/-- A message that expects no reply leaves the table alone. -/
theorem notify (f : Faithful c) {m : Message} (reply : m.requestId? = none) :
    Faithful (c.notify m) := by
  unfold Conversation.notify
  split
  · rename_i sent
    exact f.link (Link.requests_of_send (Session.notify_eq sent) reply)
  · exact f

theorem greeted (f : Faithful c) (outcome : Outcome) : Faithful (c.greeted outcome) := by
  unfold Conversation.greeted
  rcases finished : c.session.finishHandshake c.link outcome with ⟨result, session, link⟩
  obtain ⟨⟨capabilities, rfl⟩, requests⟩ := Session.finishHandshake_keeps finished
  exact f.of_same (Nat.le_refl _) rfl rfl rfl requests rfl rfl

/-- A text is read: it answers one of the pending requests, or none. -/
theorem readText (f : Faithful c) (text : String) {link : Link Message}
    (requests : link.requests = c.link.requests) :
    Faithful { c with
      session := (c.session.read link text).1
      link := (c.session.read link text).2
      log := c.log ++ [.read text] } := by
  have carried := (c.session.requests_read link text).trans requests
  by_cases answers : ∃ id outcome, Answers text id outcome ∧ id ∈ c.session.pending
  · obtain ⟨id, outcome, answers, pending⟩ := answers
    -- A text answers one request only, so no other slot changes.
    have only : ∀ other outcome', Answers text other outcome' ↔ other = id ∧ outcome' = outcome := by
      intro other outcome'
      constructor
      · exact fun answers' => answers'.unique answers
      · rintro ⟨rfl, rfl⟩
        exact answers
    rw [Session.read_of_answers answers pending] at carried ⊢
    refine f.append rfl rfl carried (f.nodup.filter _) ?_ ?_ ?_ ?_ ?_ ?_
    · intro other
      simp [Event.Settles, only]
    · simp [Event.closed?]
    · intro other outcome'
      simp only [Event.Gives, Event.closed?, only, List.mem_append, List.mem_singleton,
        Prod.mk.injEq]
      constructor
      · rintro (old | ⟨rfl, rfl⟩)
        · exact .inl ⟨old, by simp⟩
        · exact .inr ⟨pending, rfl, rfl⟩
      · rintro (⟨old, -⟩ | ⟨-, new⟩)
        · exact .inl old
        · exact .inr new
    · simp
    · rintro other ⟨⟩
    · rintro other outcome' ⟨⟩
  · have foreign : ∀ id outcome, Answers text id outcome → id ∉ c.session.pending :=
      fun id outcome answers' pending => answers ⟨id, outcome, answers', pending⟩
    rw [Session.read_of_foreign foreign]
    refine f.append rfl rfl carried f.nodup ?_ ?_ ?_ ?_ ?_ ?_
    · intro id
      refine ⟨fun pending => ⟨pending, ?_⟩, And.left⟩
      rintro ⟨outcome, answers'⟩
      exact foreign id outcome answers' pending
    · simp [Event.closed?]
    · intro id outcome
      refine ⟨fun old => .inl ⟨old, by simp [Event.closed?]⟩, ?_⟩
      rintro (⟨old, -⟩ | ⟨pending, gives⟩)
      · exact old
      · exact absurd pending (foreign id outcome gives)
    · simp
    · rintro id ⟨⟩
    · rintro id outcome ⟨⟩

/-- The session ends, and fails all pending requests. -/
theorem fail (f : Faithful c) {e : Event} {failure : Failure} {link : Link Message}
    (requests : link.requests = c.link.requests) (ends : .disposed = e ∨ .ended = e)
    (gives : ∀ id outcome, e.Gives id outcome ↔ outcome = .error failure) :
    Faithful { c with
      session := { c.session with disposed := true }.failPending failure
      link, log := c.log ++ [e] } := by
  have settles : ∀ id, e.Settles id := fun id => ((gives id _).2 rfl).settles
  have closed : e.closed? = none := ((gives 0 _).2 rfl).closed?
  have noRequest : e.sent? = none := by
    rcases ends with rfl | rfl
    · rfl
    · rfl
  refine f.append noRequest rfl requests List.nodup_nil ?_ ?_ ?_ ?_ ?_ ?_
  · intro id
    simp [Session.failPending, settles id]
  · simp [closed]
  · intro id outcome
    simp only [Session.failPending, gives, closed, List.mem_append, List.mem_map, Prod.mk.injEq]
    constructor
    · rintro (old | ⟨other, pending, rfl, rfl⟩)
      · exact .inl ⟨old, by simp⟩
      · exact .inr ⟨pending, rfl⟩
    · rintro (⟨old, -⟩ | ⟨pending, rfl⟩)
      · exact .inl old
      · exact .inr ⟨id, pending, rfl, rfl⟩
  · simp [Session.failPending, ends]
  · intro id closes
    rw [closed] at closes
    cases closes
  · rintro id outcome rfl
    cases closed

theorem read (f : Faithful c) : Faithful c.read := by
  unfold Conversation.read
  split
  · have requests := Link.requests_receive c.link
    rcases received : c.link.receive with ⟨text?, link⟩
    rw [received] at requests
    cases text? with
    | some text => exact f.readText text requests
    | none =>
        simp only []
        split
        · exact f
        · exact f.fail requests (.inr rfl) fun _ _ => Iff.rfl
  · exact f

/-- The session is disposed of, and its callers are told when they look. -/
theorem dispose (f : Faithful c) : Faithful c.dispose := by
  unfold Conversation.dispose
  split
  · exact f
  · rename_i usable
    have gone : c.session.dispose
        = { c.session with disposed := true }.failPending .sessionDisposed := if_neg usable
    rw [gone]
    exact f.fail (Link.requests_of_frames (Link.frames_stopListening c.link)) (.inl rfl)
      fun _ _ => Iff.rfl

/-- Every deed keeps a conversation faithful. -/
theorem act (f : Faithful c) (deed : Deed) : Faithful (c.act deed) := by
  cases deed with
  | call now timeout method params => exact f.call now timeout method params
  | poll id now due => exact f.poll id now due
  | drop id => exact f.drop id
  | notify method params => exact f.notify rfl
  | greeted outcome => exact f.greeted outcome
  | read => exact f.read
  | dispose => exact f.dispose
  | close => exact f.link (Link.requests_of_frames (Link.frames_close c.link))
  | peerState state => exact f.link (Link.requests_of_frames (Link.frames_setState c.link state))
  | peerFeed text => exact f.link (Link.requests_of_frames (Link.frames_feed c.link text))
  | peerEndFeed => exact f.link (Link.requests_of_frames (Link.frames_endFeed c.link))
  | peerGone => exact f.link (Link.requests_of_frames (Link.frames_dropPeer c.link))
  | peerTook taken => exact f.link rfl

/-- However a conversation goes on, it stays faithful. -/
theorem acts (f : Faithful c) (deeds : List Deed) : Faithful (c.acts deeds) := by
  induction deeds generalizing c with
  | nil => exact f
  | cons deed rest ih => exact ih (f.act deed)

end Faithful
end Conversation
end LanguageBridge
