import LanguageBridge.Proofs.Client.Sending

/-!
# Nobody waits unnoticed

A request that waits can be told in three ways: its reply is read, its session ends, or its time
runs out.  Each of them makes its job ready.  `System.Attended` says that none of them can be
missed: a request that is not ready is pending, and its timer is armed.

Whatever a client does beside its requests leaves them attended, for two reasons.  Whoever settles a
pending request wakes its caller, and a session from which requests disappear without a word,
because it is started afresh or its handshake is abandoned, has no callers yet.

## Main definitions

* `Session.Minds s id up`: the session has sent request `id`, and it is pending, or it was answered
  and its caller is up.  What being up means is left open, so the same lemmas serve before and after
  the callers were woken.
* `Session.Remembers`: a session has gone on without losing a request.  Reading, disposing and the
  end of the texts are of this kind; only giving up is not, and that is the caller's own doing.
* `Spares a b`: an agenda has gone on without touching the jobs and the timers of requests.
* `System.Attended rs s`: all of the requests `rs` are looked after, and none of them waits on a
  connection whose session has still to be installed.

The lemmas `Attended.step`, `Attended.settle` and `Attended.hear` are the three ways to go on:
nothing is settled, everything on one connection is settled and woken, or what a reader has settled
is.
-/

namespace LanguageBridge

/-! ## Sessions

A session settles requests in three ways: by a reply, by being disposed of, and by the end of its
texts.  In each of them the request leaves the table and its answer is laid down for the caller. -/

namespace Session

variable {s s' s'' : Session} {id : Nat} {up later : Prop}

/-- A request has been answered, and its answer is there to be collected. -/
def Answered (s : Session) (id : Nat) : Prop := ∃ outcome, (id, outcome) ∈ s.answers

/-- A request that was sent is pending, or it was answered and its caller is up. -/
def Minds (s : Session) (id : Nat) (up : Prop) : Prop :=
  id < s.nextId ∧ (id ∈ s.pending ∨ s.Answered id ∧ up)

/-- A session has gone on without forgetting a request: what was pending still is or was answered,
and no answer was lost. -/
structure Remembers (s s' : Session) : Prop where
  nextId : s.nextId ≤ s'.nextId
  pending : ∀ id ∈ s.pending, id ∈ s'.pending ∨ s'.Answered id
  answered : ∀ id, s.Answered id → s'.Answered id

/-- Being up may be exchanged for something that follows from it. -/
theorem Minds.mono (minds : s.Minds id up) (still : up → later) : s.Minds id later :=
  ⟨minds.1, minds.2.imp_right fun answered => ⟨answered.1, still answered.2⟩⟩

/-- Whoever settles a request has to see to it that its caller is up. -/
theorem Minds.remembers (minds : s.Minds id up) (remembers : Remembers s s') (still : up → later)
    (settled : id ∈ s.pending → id ∉ s'.pending → later) : s'.Minds id later := by
  refine ⟨Nat.lt_of_lt_of_le minds.1 remembers.nextId, ?_⟩
  rcases minds.2 with pending | ⟨answered, awake⟩
  · by_cases kept : id ∈ s'.pending
    · exact .inl kept
    · have told := (remembers.pending id pending).resolve_left kept
      exact .inr ⟨told, settled pending kept⟩
  · exact .inr ⟨remembers.answered id answered, still awake⟩

namespace Remembers

@[refl] theorem refl (s : Session) : Remembers s s := ⟨Nat.le_refl _, fun _ => .inl, fun _ => id⟩

/-- What was pending in the beginning and answered on the way keeps its answer. -/
theorem trans (first : Remembers s s') (second : Remembers s' s'') : Remembers s s'' where
  nextId := Nat.le_trans first.nextId second.nextId
  pending := by
    intro id waits
    rcases first.pending id waits with still | answered
    · exact second.pending id still
    · exact .inr (second.answered id answered)
  answered := fun id answered => second.answered id (first.answered id answered)

/-- An answer takes its request from the pending ones to the answered ones. -/
theorem answer (s : Session) (id : Nat) (outcome : Outcome) : Remembers s (s.answer id outcome) := by
  unfold Session.answer
  split
  · refine ⟨Nat.le_refl _, fun other waits => ?_, fun other ⟨told, mem⟩ => ?_⟩
    · by_cases same : other = id
      · rw [same]
        exact .inr ⟨outcome, List.mem_append_right _ (List.mem_singleton_self _)⟩
      · exact .inl (List.mem_filter.2 ⟨waits, decide_eq_true same⟩)
    · exact ⟨told, List.mem_append_left _ mem⟩
  · exact .refl s

/-- A text of the server answers a request at most. -/
theorem read (s : Session) (l : Link Message) (text : String) : Remembers s (s.read l text).1 := by
  unfold Session.read
  split
  · split
    · exact .answer s _ _
    · exact .refl s
  · split <;> exact .refl s
  · exact .refl s

theorem foldl_read (texts : List String) (s : Session) (l : Link Message) :
    Remembers s (texts.foldl (fun (p : Session × Link Message) text => p.1.read p.2 text)
      (s, l)).1 := by
  induction texts generalizing s l with
  | nil => exact .refl s
  | cons text rest ih => exact (read s l text).trans (ih (s.read l text).1 (s.read l text).2)

/-- A session that is over has answered whatever was pending. -/
theorem ended (s : Session) (e : Failure) :
    Remembers s ({ s with disposed := true }.failPending e) where
  nextId := Nat.le_refl _
  pending := fun _ waits => .inr ⟨.error e, List.mem_append_right _ (List.mem_map_of_mem waits)⟩
  answered := fun _ ⟨outcome, mem⟩ => ⟨outcome, List.mem_append_left _ mem⟩

/-- A session that is disposed of answers whatever is pending with a failure. -/
theorem dispose (s : Session) : Remembers s s.dispose := by
  unfold Session.dispose
  split
  · exact .refl s
  · exact .ended s _

/-- So does one whose texts have ended, with another failure. -/
theorem endOfTexts (s : Session) : Remembers s s.endOfTexts := .ended s _

end Remembers

/-- A request that is sent, or refused, leaves the others as they are. -/
theorem Minds.call (minds : s.Minds id up) {l l' : Link Message} {now : Nat} {timeout : Duration}
    {method : String} {params : Json} {answer : Call}
    (called : s.call l now timeout method params = (answer, s', l')) : s'.Minds id up := by
  have other : id ≠ s.nextId := Nat.ne_of_lt minds.1
  rcases s.request_cases l method params with
    ⟨e, n, later, refused⟩ | ⟨link, -, -, accepted⟩
  · cases (call_of_refused refused now timeout).symm.trans called
    exact ⟨Nat.lt_of_lt_of_le minds.1 later, minds.2⟩
  · rcases call_of_sent accepted now timeout with late | ⟨due, waits⟩
    · cases late.symm.trans called
      refine ⟨Nat.lt_succ_of_lt minds.1, ?_⟩
      rcases minds.2 with pending | ⟨⟨outcome, mem⟩, awake⟩
      · exact .inl (List.mem_filter.2 ⟨List.mem_append_left _ pending, decide_eq_true other⟩)
      · exact .inr ⟨⟨outcome, List.mem_filter.2 ⟨mem, decide_eq_true other⟩⟩, awake⟩
    · cases waits.symm.trans called
      exact ⟨Nat.lt_succ_of_lt minds.1, minds.2.imp_left (List.mem_append_left _)⟩

/-- A request whose caller waits is pending, and there is time left. -/
theorem pending_of_call {l l' : Link Message} {now due : Nat} {timeout : Duration} {method : String}
    {params : Json} (called : s.call l now timeout method params = (.waiting id due, s', l')) :
    id = s.nextId ∧ id < s'.nextId ∧ id ∈ s'.pending ∧ now < due := by
  rcases s.request_cases l method params with ⟨e, n, -, refused⟩ | ⟨link, -, -, accepted⟩
  · cases (call_of_refused refused now timeout).symm.trans called
  · rw [Session.call, accepted] at called
    simp only [] at called
    split at called
    · cases called
    · rename_i early
      cases called
      exact ⟨rfl, Nat.lt_succ_self _, List.mem_append_right _ (List.mem_singleton_self _),
        Nat.lt_of_not_le early⟩

/-- Whoever looks for an answer leaves the other requests as they are. -/
theorem Minds.resume {other : Nat} (minds : s.Minds other up) (ne : other ≠ id) (now due : Nat) :
    (s.resume now id due).2.Minds other up := by
  have collected : (s.collect id).2.Minds other up := by
    unfold collect
    split
    · exact minds
    · refine ⟨minds.1, minds.2.imp_right ?_⟩
      rintro ⟨⟨outcome, mem⟩, awake⟩
      exact ⟨⟨outcome, List.mem_filter.2 ⟨mem, decide_eq_true ne⟩⟩, awake⟩
  unfold Session.resume
  split
  · rename_i found
    rwa [found] at collected
  · rename_i found
    rw [found] at collected
    split
    · refine ⟨collected.1, ?_⟩
      rcases collected.2 with pending | ⟨⟨outcome, mem⟩, awake⟩
      · exact .inl (List.mem_filter.2 ⟨pending, decide_eq_true ne⟩)
      · exact .inr ⟨⟨outcome, List.mem_filter.2 ⟨mem, decide_eq_true ne⟩⟩, awake⟩
    · exact collected

/-- A caller that waits on has found no answer, has time left, and has changed nothing. -/
theorem waits_of_resume {now due id' due' : Nat}
    (resumed : s.resume now id due = (.waiting id' due', s')) :
    ¬s.Answered id ∧ now < due ∧ s' = s := by
  unfold Session.resume Session.collect at resumed
  cases found : s.answers.lookup id with
  | some outcome =>
      rw [found] at resumed
      cases resumed
  | none =>
      rw [found] at resumed
      simp only [] at resumed
      split at resumed
      · cases resumed
      · rename_i early
        cases resumed
        refine ⟨?_, Nat.lt_of_not_le early, rfl⟩
        rintro ⟨outcome, mem⟩
        simpa using List.lookup_eq_none_iff.1 found _ mem

end Session

/-! ## Agendas

A timer that has been armed stays on the agenda until the clock reaches it, and then its job is
ready. -/

namespace Agenda

variable {τ : Type} [DecidableEq τ]

/-- What making due jobs ready does to an agenda, in all its parts: only the ready jobs are
more. -/
theorem foldl_wake (due : List (Timer τ)) (a : Agenda τ) :
    (due.foldl (fun a t => a.wake t.task) a).now = a.now ∧
      (due.foldl (fun a t => a.wake t.task) a).timers = a.timers ∧
      ∀ j, j ∈ (due.foldl (fun a t => a.wake t.task) a).ready ↔
        j ∈ a.ready ∨ ∃ t ∈ due, t.task = j := by
  induction due generalizing a with
  | nil => exact ⟨rfl, rfl, fun j => by simp⟩
  | cons t rest ih =>
      obtain ⟨now, timers, ready⟩ := ih (a.wake t.task)
      have same : (a.wake t.task).now = a.now ∧ (a.wake t.task).timers = a.timers := by
        unfold wake
        split <;> exact ⟨rfl, rfl⟩
      refine ⟨now.trans same.1, timers.trans same.2, fun j => (ready j).trans ?_⟩
      rw [mem_ready_wake]
      simp only [List.mem_cons, exists_eq_or_imp, or_assoc, eq_comm (a := j)]

theorem now_reach (a : Agenda τ) (time : Nat) : (a.reach time).now = time := (foldl_wake _ _).1

/-- A timer stays armed until the clock has reached it. -/
theorem mem_timers_reach {a : Agenda τ} {time : Nat} {t : Timer τ} :
    t ∈ (a.reach time).timers ↔ t ∈ a.timers ∧ time < t.due := by
  rw [reach, (foldl_wake _ _).2.1, List.mem_filter, decide_eq_true_iff]

/-- A job is ready if it was, or if one of its timers is due. -/
theorem mem_ready_reach {a : Agenda τ} {time : Nat} {j : τ} :
    j ∈ (a.reach time).ready ↔ j ∈ a.ready ∨ ∃ t ∈ a.timers, t.due ≤ time ∧ t.task = j := by
  rw [reach, (foldl_wake _ _).2.2 j]
  simp only [List.mem_filter, decide_eq_true_iff, and_assoc]

end Agenda

namespace Client

/-- An agenda at the same time on which nothing that concerns a request has been taken away. -/
structure Spares (a b : Agenda Job) : Prop where
  now : b.now = a.now
  ready : ∀ n, .request n ∈ a.ready → .request n ∈ b.ready
  timers : ∀ n due, ⟨due, .request n⟩ ∈ a.timers → ⟨due, .request n⟩ ∈ b.timers

namespace Spares

variable {a b d : Agenda Job}

@[refl] theorem refl (a : Agenda Job) : Spares a a := ⟨rfl, fun _ => id, fun _ _ => id⟩

theorem trans (first : Spares a b) (second : Spares b d) : Spares a d where
  now := second.now.trans first.now
  ready := fun n there => second.ready n (first.ready n there)
  timers := fun n due there => second.timers n due (first.timers n due there)

theorem wake (a : Agenda Job) (j : Job) : Spares a (a.wake j) := by
  refine ⟨?_, fun n there => (a.mem_ready_wake j _).2 (.inl there), fun n due there => ?_⟩
  · unfold Agenda.wake
    split <;> rfl
  · unfold Agenda.wake
    split <;> exact there

theorem arm (a : Agenda Job) (j : Job) (due : Nat) : Spares a (a.arm j due) :=
  ⟨rfl, fun _ => id, fun _ _ => List.mem_append_left _⟩

theorem disarm (a : Agenda Job) {j : Job} (other : ∀ n, j ≠ .request n) : Spares a (a.disarm j) :=
  ⟨rfl, fun _ => id, fun n _ there => List.mem_filter.2 ⟨there, decide_eq_true (other n).symm⟩⟩

theorem forget (a : Agenda Job) {j : Job} (other : ∀ n, j ≠ .request n) : Spares a (a.forget j) where
  now := rfl
  ready := fun n there => (a.mem_ready_forget j _).2 ⟨there, (other n).symm⟩
  timers := fun n _ there => List.mem_filter.2 ⟨there, decide_eq_true (other n).symm⟩

end Spares

/-! ## Attention

The invariant, with the ways to go on.  Most operations change neither a session nor the jobs of
requests and are covered by `Attended.step`; the rest say which requests they settle and show that
those are woken. -/

/-- An attempt has still to install the session of a connection. -/
def Phase.Prepares (p : Phase) (c : Nat) : Prop := p.connection? = some c ∧ p.Underway

/-- A request waits on a connection for the answer to an id. -/
def Request.Waits (r : Request) (c id : Nat) : Prop := ∃ due lines, r.stage = .waiting c id due lines

namespace System

variable {s t : System} {rs : List Request}

/-- A request is looked after: it is ready to start, or whatever it waits for will make it ready. -/
def Attends (s : System) (r : Request) : Prop :=
  match r.stage with
  | .starting => .request r.number ∈ s.agenda.ready
  | .waiting c id due _ =>
    (s.connection c).session.Minds id (.request r.number ∈ s.agenda.ready) ∧
      (⟨due, .request r.number⟩ ∈ s.agenda.timers ∧ s.now < due ∨
        due ≤ s.now ∧ .request r.number ∈ s.agenda.ready)

/-- None of some requests waits on a connection. -/
def Unwaited (rs : List Request) (c : Nat) : Prop := ∀ r ∈ rs, ∀ id, ¬r.Waits c id

/-- Some requests are looked after, and none of them waits on a connection whose session has still
to be installed. -/
structure Attended (rs : List Request) (s : System) : Prop where
  among : ∀ r ∈ rs, r ∈ s.requests
  each : ∀ r ∈ rs, s.Attends r
  early : ∀ a ∈ s.attempts, ∀ c, a.phase.Prepares c → Unwaited rs c

/-- A request stays looked after while its readiness, its timer and what its session knows of it
do. -/
theorem Attends.mono {r : Request} (attends : s.Attends r) (spares : Spares s.agenda t.agenda)
    (minds : ∀ c id, r.Waits c id →
      (s.connection c).session.Minds id (.request r.number ∈ s.agenda.ready) →
      (t.connection c).session.Minds id (.request r.number ∈ t.agenda.ready)) : t.Attends r := by
  have now : t.now = s.now := spares.now
  unfold Attends at attends ⊢
  split at attends
  · exact spares.ready _ attends
  · rename_i c id due lines waiting
    refine ⟨minds c id ⟨due, lines, waiting⟩ attends.1, ?_⟩
    rw [now]
    exact attends.2.imp (And.imp_left (spares.timers _ _)) (And.imp_right (spares.ready _))

/-- No request waits on a connection that was never asked for. -/
theorem Attended.unwaited_of_beyond (attended : Attended rs s) {c : Nat}
    (beyond : s.connections.length ≤ c) : Unwaited rs c := by
  rintro r mem id ⟨due, lines, waiting⟩
  have attends := attended.each r mem
  unfold Attends at attends
  rw [waiting] at attends
  obtain ⟨⟨-, known⟩, -⟩ := attends
  rw [connection_of_length_le s beyond] at known
  rcases known with pending | ⟨⟨outcome, mem⟩, -⟩
  · cases pending
  · cases mem

/-- Whoever waits for a request of a session is among those that are woken with it. -/
theorem mem_waiters {r : Request} (mem : r ∈ s.requests) {c id : Nat} (waits : r.Waits c id)
    {ids : List Nat} (own : id ∈ ids) : .request r.number ∈ s.waiters c ids := by
  obtain ⟨due, lines, waiting⟩ := waits
  refine List.mem_append_right _ (List.mem_filterMap.2 ⟨r, mem, ?_⟩)
  rw [waiting]
  exact if_pos ⟨rfl, own⟩

theorem spares_wakeAll (s : System) (js : List Job) :
    Spares s.agenda (s.wakeAll js).agenda := by
  induction js generalizing s with
  | nil => exact .refl _
  | cons j rest ih => exact (Spares.wake s.agenda j).trans (ih (s.wake j))

/-- A job is ready after several were made so if it was before or is among them. -/
theorem mem_ready_wakeAll {j : Job} {js : List Job} (awake : j ∈ s.agenda.ready ∨ j ∈ js) :
    j ∈ (s.wakeAll js).agenda.ready := by
  induction js generalizing s with
  | nil => exact awake.resolve_right List.not_mem_nil
  | cons i rest ih =>
      refine ih (s := s.wake i) ?_
      rw [List.mem_cons, ← or_assoc] at awake
      exact awake.imp_left (s.agenda.mem_ready_wake i j).2

namespace Attended

/-- Whatever else changes beside the sessions and what concerns requests. -/
theorem step (attended : Attended rs s) (requests : t.requests = s.requests)
    (spares : Spares s.agenda t.agenda)
    (attempts : ∀ a ∈ t.attempts, a ∈ s.attempts ∨ a.phase = .starting)
    (minds : ∀ r ∈ rs, ∀ c id, r.Waits c id →
      (s.connection c).session.Minds id (.request r.number ∈ s.agenda.ready) →
      (t.connection c).session.Minds id (.request r.number ∈ t.agenda.ready)) : Attended rs t where
  among := fun r mem => requests ▸ attended.among r mem
  each := fun r mem => (attended.each r mem).mono spares (minds r mem)
  early := by
    intro a mem c prepares
    rcases attempts a mem with before | starting
    · exact attended.early a before c prepares
    · have none := prepares.1
      rw [starting] at none
      cases none

theorem same (attended : Attended rs s) (connections : t.connections = s.connections)
    (requests : t.requests = s.requests) (spares : Spares s.agenda t.agenda)
    (attempts : ∀ a ∈ t.attempts, a ∈ s.attempts ∨ a.phase = .starting) : Attended rs t := by
  refine attended.step requests spares attempts fun r mem c id waits minds => ?_
  rw [connection, connections, ← connection]
  exact minds.mono (spares.ready _)

/-- Only the agenda has changed, and it spares the requests. -/
theorem agenda (attended : Attended rs s) {agenda : Agenda Job} (spares : Spares s.agenda agenda) :
    Attended rs { s with agenda } :=
  attended.same rfl rfl spares fun _ => .inl

theorem wakeAll (attended : Attended rs s) (js : List Job) : Attended rs (s.wakeAll js) := by
  refine attended.same (connections_wakeAll s js) (Calm.wakeAll s js).requests (spares_wakeAll s js)
    fun a mem => ?_
  rw [(Calm.wakeAll s js).attempts] at mem
  exact .inl mem

/-- A change of one connection that leaves whoever waits on it where it was. -/
theorem update (attended : Attended rs s) {c : Nat} {f : Connection → Connection}
    (own : ∀ r ∈ rs, ∀ id up, r.Waits c id → (s.connection c).session.Minds id up →
      (f (s.connection c)).session.Minds id up) : Attended rs (s.update c f) := by
  refine attended.step rfl (.refl _) (fun _ => .inl) fun r mem d id waits minds => ?_
  rw [connection_update_eq]
  split
  · rename_i here
    obtain ⟨rfl, -⟩ := here
    exact own r mem id _ waits minds
  · exact minds

/-- A session has gone on that still minds whoever waits on it. -/
theorem exchange (attended : Attended rs s) {c : Nat} {session : Session} {link : Link Message}
    (own : ∀ r ∈ rs, ∀ id up, r.Waits c id → (s.connection c).session.Minds id up →
      session.Minds id up) : Attended rs (s.exchange c session link) := by
  have updated : Attended rs (s.update c fun k => { k with session, link }) := attended.update own
  unfold System.exchange
  simp only []
  split
  · exact updated.agenda (.wake _ _)
  · exact updated

/-- A socket is asked to close; the session on it minds its requests as before. -/
theorem closeSocket (attended : Attended rs s) (c : Nat) : Attended rs (s.closeSocket c) :=
  attended.exchange fun _ _ _ _ _ minds => minds

/-- Requests of one session that are settled, with whoever waits for them woken. -/
theorem settle (attended : Attended rs s) {c : Nat} (requests : t.requests = s.requests)
    (attempts : t.attempts = s.attempts) (spares : Spares s.agenda t.agenda)
    (remembers : (s.connection c).session.Remembers (t.connection c).session)
    (others : ∀ d, d ≠ c → (t.connection d).session = (s.connection d).session) {js : List Job}
    (woken : ∀ r ∈ rs, ∀ id, r.Waits c id → id ∈ (s.connection c).session.pending →
      id ∉ (t.connection c).session.pending → .request r.number ∈ js) :
    Attended rs (t.wakeAll js) := by
  have later := spares.trans (spares_wakeAll t js)
  refine attended.step ((Calm.wakeAll t js).requests.trans requests) later (fun a mem => ?_)
    fun r mem d id waits minds => ?_
  · rw [(Calm.wakeAll t js).attempts, attempts] at mem
    exact .inl mem
  · rw [connection_wakeAll]
    by_cases here : d = c
    · subst here
      refine minds.remembers remembers (later.ready _) fun pending gone => ?_
      exact mem_ready_wakeAll (.inr (woken r mem id waits pending gone))
    · rw [others d here]
      exact minds.mono (later.ready _)

theorem dispose (attended : Attended rs s) (c : Nat) : Attended rs (s.dispose c) := by
  unfold System.dispose
  simp only []
  split
  · exact attended
  · rename_i usable
    have within := lt_length_of_usable (Bool.eq_false_iff.2 usable)
    have disposed : (s.update c .dispose).connection c = (s.connection c).dispose :=
      connection_update s _ within
    refine attended.settle (c := c) (t := (s.update c .dispose).forget (.reader c)) rfl rfl
      (.forget s.agenda fun _ => nofun) ?_ (fun d other => ?_) fun r mem id waits pending _ => ?_
    · show Session.Remembers _ ((s.update c .dispose).connection c).session
      rw [disposed]
      exact .dispose _
    · exact congrArg Connection.session (connection_update_of_ne s _ other)
    · exact mem_waiters (attended.among r mem) waits pending

/-- A session that has settled some of its requests. -/
theorem hear (attended : Attended rs s) {c : Nat} (within : c < s.connections.length)
    {session : Session} (remembers : (s.connection c).session.Remembers session)
    (link : Link Message) {js : List Job}
    (woken : ∀ r ∈ rs, ∀ id, r.Waits c id → id ∈ (s.connection c).session.pending →
      id ∉ session.pending → .request r.number ∈ js) :
    Attended rs ((s.exchange c session link).wakeAll js) := by
  have own : ((s.exchange c session link).connection c).session = session := by
    rw [connection_exchange, if_pos ⟨rfl, within⟩]
  have requests : (s.exchange c session link).requests = s.requests :=
    congrArg Front.requests (front_exchange s c session link)
  obtain ⟨attempts, spares⟩ : (s.exchange c session link).attempts = s.attempts ∧
      Spares s.agenda (s.exchange c session link).agenda := by
    unfold System.exchange
    simp only []
    split
    · exact ⟨rfl, .wake s.agenda _⟩
    · exact ⟨rfl, .refl _⟩
  refine attended.settle (c := c) requests attempts spares ?_ (fun d other => ?_) ?_
  · rwa [own]
  · rw [connection_exchange, if_neg fun same => other same.1]
  · rwa [own]

theorem disposeAny (attended : Attended rs s) (c : Option Nat) : Attended rs (s.disposeAny c) := by
  cases c with
  | none => exact attended
  | some c => exact attended.dispose c

theorem closeAny (attended : Attended rs s) (c : Option Nat) : Attended rs (s.closeAny c) := by
  cases c with
  | none => exact attended
  | some c => exact attended.closeSocket c

/-- An attempt that leaves a handshake gives up an id for which no request waits. -/
theorem leave (attended : Attended rs s) {phase : Phase}
    (early : ∀ c, phase.Prepares c → Unwaited rs c) : Attended rs (s.leave phase) := by
  cases phase with
  | starting => exact attended
  | opening c => exact attended
  | watching c => exact attended.dispose c
  | handshaking c id due =>
      refine Attended.dispose (attended.update fun r mem other up waits => ?_) c
      exact absurd waits (early c ⟨rfl, trivial⟩ r mem other)

/-- An attempt that has come to another phase. -/
theorem setPhase (attended : Attended rs s) (generation : Nat) {phase : Phase}
    (early : ∀ c, phase.Prepares c → Unwaited rs c) : Attended rs (s.setPhase generation phase) := by
  refine ⟨attended.among, attended.each, fun a mem c prepares => ?_⟩
  obtain ⟨b, before, rfl⟩ := List.mem_map.1 mem
  split at prepares
  · exact early c prepares
  · exact attended.early b before c prepares

end Attended

end System
end Client
end LanguageBridge
