import LanguageBridge.Proofs.Client.Advertised
import LanguageBridge.Proofs.Client.Attention
import LanguageBridge.Proofs.Client.Standing

/-!
# A stale session is dropped once

Whoever needs a session asks whether there is one that can be used, and whoever finds a stale one
has it dropped and a reconnect armed.  The question is asked by health checks, by requests, by
settings that are pushed and by whoever only wants to know; and it is asked again while the
reconnect is pending.  None of that may put the reconnect off, or a client whose health is checked
more often than it reconnects would never reconnect at all.

`System.stale_kicks_once` says that the question has the right answer, that it changes nothing if
the answer is a session, and what is dropped and armed if it is not.  From then on no session is in
use, and so no further question finds one that is stale (`Looked`).

## Main definitions

* `Action.looks`: the actions that ask for the session in use.  `Action.bides`: time that passes,
  and pauses that come to run.
* `Dropped s t c`: what has become of the stale session of `c` and of the slot for retries.
* `Looked s t`: a look at a client without a session in use has changed neither its state nor its
  pauses nor anything on the agenda that concerns a pause.
* `Alike s t`: two clients that have the same ahead of them as far as the retry goes.

## Why two runs are compared

That a look arms nothing is a property of one step.  That it puts nothing off is not: a timer could
be taken away and armed again with a later due time.  So the run with its looks is compared with the
run without them (`Alike.acts`), action by action, and the pause ends in both at the same time.  The
agendas are compared only in what concerns pauses (`LeavesPauses`), since looks make other jobs
ready.
-/

namespace LanguageBridge.Client

/-! ## Agendas

Looks make jobs ready: a request that is answered wakes its caller.  So agendas are compared only
in what concerns pauses, and this section says that such a comparison lasts while time passes. -/

/-- An agenda at the same time on which nothing that concerns a pause has changed. -/
structure LeavesPauses (a b : Agenda Job) : Prop where
  now : b.now = a.now
  ready : ∀ token, .pause token ∈ b.ready ↔ .pause token ∈ a.ready
  timers : ∀ due token, ⟨due, .pause token⟩ ∈ b.timers ↔ ⟨due, .pause token⟩ ∈ a.timers

namespace LeavesPauses

variable {a b d : Agenda Job} {j : Job}

@[refl] theorem refl (a : Agenda Job) : LeavesPauses a a := ⟨rfl, fun _ => .rfl, fun _ _ => .rfl⟩

/-- Two agendas that agree with a third about pauses. -/
theorem trans (first : LeavesPauses a b) (second : LeavesPauses b d) : LeavesPauses a d where
  now := second.now.trans first.now
  ready := fun token => (second.ready token).trans (first.ready token)
  timers := fun due token => (second.timers due token).trans (first.timers due token)

theorem wake (a : Agenda Job) (other : ∀ token, j ≠ .pause token) : LeavesPauses a (a.wake j) where
  now := by
    unfold Agenda.wake
    split <;> rfl
  ready := fun token => (a.mem_ready_wake j _).trans (or_iff_left (other token).symm)
  timers := by
    unfold Agenda.wake
    split <;> exact fun _ _ => .rfl

theorem arm (a : Agenda Job) (other : ∀ token, j ≠ .pause token) (due : Nat) :
    LeavesPauses a (a.arm j due) where
  now := rfl
  ready := fun _ => .rfl
  timers := by
    intro due' token
    refine List.mem_append.trans (or_iff_left fun mem => ?_)
    exact other token (congrArg Timer.task (List.mem_singleton.1 mem)).symm

/-- Another job is forgotten, and its own timers with it. -/
theorem forget (a : Agenda Job) (other : ∀ token, j ≠ .pause token) : LeavesPauses a (a.forget j) where
  now := rfl
  ready := fun token => (a.mem_ready_forget j _).trans (and_iff_left (other token).symm)
  timers := fun _ token =>
    List.mem_filter.trans (and_iff_left (decide_eq_true (other token).symm))

/-- Two agendas that agree on the pauses still do after the same time. -/
theorem reach (same : LeavesPauses a b) (time : Nat) :
    LeavesPauses (a.reach time) (b.reach time) where
  now := by rw [Agenda.now_reach, Agenda.now_reach]
  ready := by
    intro token
    rw [Agenda.mem_ready_reach, Agenda.mem_ready_reach, same.ready]
    refine or_congr_right ⟨?_, ?_⟩
    · rintro ⟨⟨due, -⟩, mem, le, rfl⟩
      exact ⟨_, (same.timers due token).1 mem, le, rfl⟩
    · rintro ⟨⟨due, -⟩, mem, le, rfl⟩
      exact ⟨_, (same.timers due token).2 mem, le, rfl⟩
  timers := by
    intro due token
    rw [Agenda.mem_timers_reach, Agenda.mem_timers_reach, same.timers]

/-- And after the same timer was armed. -/
theorem armed (same : LeavesPauses a b) (j : Job) (due : Nat) :
    LeavesPauses (a.arm j due) (b.arm j due) where
  now := same.now
  ready := same.ready
  timers := by
    intro due' token
    exact List.mem_append.trans ((or_congr_left (same.timers due' token)).trans List.mem_append.symm)

end LeavesPauses

/-! ## Actions

The statement is about three kinds of actions, those that look, those by which time passes, and
the pause that ends it; what the rest of a client does is no part of it. -/

/-- Whatever asks for the session in use: whoever wants to know, settings that are pushed, requests
and health checks. -/
def Action.looks : Action → Bool
  | .checkConnected => true
  | .updateSettings _ => true
  | .ask _ _ _ _ _ => true
  | .run (.checks _) => true
  | .run (.request _) => true
  | _ => false

/-- Time passes, and pauses come to run. -/
def Action.bides : Action → Bool
  | .wait _ => true
  | .run (.pause _) => true
  | _ => false

theorem Action.bides_of_looks {a : Action} (looks : a.looks = true) : a.bides = false := by
  unfold Action.looks at looks
  split at looks
  all_goals first | rfl | cases looks

namespace System

variable {s t : System} {c : Nat}

/-! ## What is dropped

The session that is found stale is disposed of, whoever waits on it is told, and a reconnect is
armed.  `Dropped` says so field by field, and that the client knows of no other change: it keeps its
socket, its health checks and its count of failures. -/

/-- A session that is disposed of, seen through its connection. -/
theorem session_dispose_self (s : System) (c : Nat) :
    ((s.dispose c).connection c).session = (s.connection c).session.dispose := by
  unfold dispose
  simp only []
  split
  · rename_i ended
    rw [Session.dispose, if_pos ended]
  · rename_i usable
    have within : c < s.connections.length := by
      refine Nat.lt_of_not_le fun beyond => usable ?_
      rw [connection_of_length_le s beyond]
      rfl
    rw [connection_wakeAll]
    exact congrArg Connection.session (connection_update s Connection.dispose within)

/-- What has become of a client that has dropped the session of a connection. -/
structure Dropped (s t : System) (c : Nat) : Prop where
  /-- No session is in use, one more retry has been armed and is pending, and nothing else that the
  client knows has changed; in particular no failed attempt was counted. -/
  state : t.state = { s.state with
    current := none
    retry := { s.state.retry with
      issued := s.state.retry.issued + 1, pending := some (s.state.retry.issued + 1) } }
  /-- The pause before that retry, which takes the fixed short time, is the only one. -/
  pauses : t.pauses = [⟨s.state.retry.issued + 1, s.state.options.forcedDelay, none⟩]
  disposed : (t.connection c).session.disposed = true
  /-- Nobody waits for an answer any more, and whoever did is told. -/
  waiting : (t.connection c).session.pending = []
  failed : ∀ id ∈ (s.connection c).session.pending,
    (id, .error .sessionDisposed) ∈ (t.connection c).session.answers
  /-- Nothing was sent. -/
  queued : ∀ d, (t.connection d).link.queued = (s.connection d).link.queued

/-- Whoever recovers from the session in use drops it. -/
theorem dropped_recover {options : Options} (run : Reachable options s)
    (current : s.state.current = some c) : Dropped s (s.recover c) c := by
  have working := run.working_of_current current
  obtain ⟨endpoint, placed⟩ := run.placed current
  obtain ⟨t, -, recovered⟩ := recover_eq working.pauses working.lasting placed current
  have session : ((s.recover c).connection c).session = (s.connection c).session.dispose := by
    have armed (u : System) : u.reconnectSoon.connection c = u.connection c := by
      obtain ⟨agenda, pauses, retry, same⟩ := reconnectSoon_form u
      rw [same]
      rfl
    rw [recover, current]
    simp only [if_true]
    rw [armed, session_dispose_self]
    rfl
  refine ⟨?state, ?pauses, ?disposed, ?waiting, ?failed, queued_recover s c⟩
  case state =>
    rw [recovered]
    rfl
  case pauses =>
    rw [recovered, run.terms.1, ← run.terms.2.2]
  case disposed => rw [session, Session.disposed_dispose]
  case waiting =>
    rw [session]
    cases ended : (s.connection c).session.disposed with
    | true =>
        rw [Session.dispose, if_pos ended]
        exact (working.coherent c).drained ended
    | false => exact Session.pending_dispose ended
  case failed =>
    intro id pending
    rw [session, Session.dispose]
    split
    · rename_i ended
      rw [(working.coherent c).drained ended] at pending
      cases pending
    · exact List.mem_append_right _ (List.mem_map_of_mem pending)

/-! ## Looks

A look at a client without a session in use finds none.  That sounds like nothing, but each of the
looks has work to do besides: a request is answered and may have been the last to hold the client,
and a series of checks goes on to its next one. -/

/-- A client without a session in use that has been looked at: nothing about it has changed but its
health checks, the requests that have not been sent, and what was answered. -/
structure Looked (s t : System) : Prop where
  state : t.state = s.state
  pauses : t.pauses = s.pauses
  agenda : LeavesPauses s.agenda t.agenda
  /-- No further request has been sent. -/
  requests : ∀ r ∈ t.requests, r.stage = .starting ∨ r ∈ s.requests
  alive : s.alive = true → t.alive = true

namespace Looked

variable {u : System}

@[refl] theorem refl (s : System) : Looked s s := ⟨rfl, rfl, .refl _, fun _ => .inr, id⟩

/-- A request that has not been sent is answered with nothing. -/
theorem finishRequest {r : Request} (numbered : Numbered s) (alive : s.alive = true)
    (mem : r ∈ s.requests) (starting : r.stage = .starting) (answer : Editor.Answer) :
    Looked s (s.finishRequest r answer) := by
  have held := alive_finishRequest numbered alive mem starting answer
  unfold System.finishRequest at held ⊢
  rw [alive_of_front (front_release _)] at held
  rw [release, if_pos held]
  have forgotten := LeavesPauses.forget s.agenda (j := .request r.number) fun _ => Job.noConfusion
  have fewer : ∀ q ∈ s.requests.filter (·.number ≠ r.number), q.stage = .starting ∨ q ∈ s.requests :=
    fun q mem => .inr (List.mem_filter.1 mem).1
  unfold deliver at held ⊢
  split at held <;> exact ⟨rfl, rfl, forgotten, fewer, fun _ => held⟩

/-- A request that had not begun finds no session, and is over. -/
theorem runRequest {number : Nat} (numbered : Numbered s) (alive : s.alive = true)
    (unused : s.state.current = none)
    (unsent : ∀ r ∈ s.requests, r.number = number → r.stage = .starting) :
    Looked s (s.runRequest number) := by
  unfold System.runRequest
  split
  · exact refl s
  · rename_i r found
    have mem := List.mem_of_find?_eq_some found
    have starting := unsent r mem (by simpa using List.find?_some found)
    have valid : s.validSession = (none, s) := by rw [validSession, unused]
    rw [starting]
    simp only [startRequest, valid]
    split <;> exact finishRequest numbered alive mem starting _

/-- A series of checks finds no session, and goes on to its next check. -/
theorem runChecks (alive : s.alive = true) (lasting : s.state.destroyed = false)
    (unused : s.state.current = none) (id : Nat) : Looked s (s.runChecks id) := by
  have armed (monitor : Monitor) (due : Nat) :
      Looked s ((s.setMonitor id monitor).arm (.checks id) due) :=
    ⟨rfl, rfl, LeavesPauses.arm _ (j := .checks id) nofun _, fun _ => .inr,
      fun kept => kept⟩
  have checked : s.checkHealth = s := by rw [checkHealth, validSession, unused]
  unfold System.runChecks
  split
  · exact refl s
  · split
    · exact armed _ _
    · split
      · exact refl s
      · rw [if_neg (by simp [alive, lasting]), checked]
        exact armed _ _

/-- Whoever looks at a client without a session in use changes nothing that a retry depends on. -/
theorem act (numbered : Numbered s) (alive : s.alive = true) (lasting : s.state.destroyed = false)
    (unused : s.state.current = none) {a : Action} (looks : a.looks = true)
    (unsent : ∀ n, a = .run (.request n) → ∀ r ∈ s.requests, r.number = n → r.stage = .starting) :
    Looked s (s.act a) := by
  have valid : s.validSession = (none, s) := by rw [validSession, unused]
  cases a with
  | checkConnected =>
      rw [System.act, isConnected, valid]
  | updateSettings settings =>
      rw [System.act, updateSettings, if_neg (by simp [lasting]), valid]
  | ask origin feature target text place =>
      refine ⟨rfl, rfl, LeavesPauses.wake _ (j := .request (s.asked + 1)) fun _ => Job.noConfusion,
        fun r mem => ?_, fun _ => ?_⟩
      · rcases List.mem_append.1 mem with old | new
        · exact .inr old
        · rw [List.mem_singleton.1 new]
          exact .inl rfl
      · rw [System.alive, Bool.or_eq_true] at alive ⊢
        refine alive.imp_right fun waits => ?_
        show ((s.requests ++ [_]).any fun r => r.connection?.isSome) = true
        rw [List.any_append, waits, Bool.true_or]
  | run job =>
      cases job with
      | checks id => exact runChecks alive lasting unused id
      | request number => exact runRequest numbered alive unused (unsent number rfl)
      | attempt generation => cases looks
      | reader c => cases looks
      | pause token => cases looks
      | peer c => cases looks
      | parcel number => cases looks
  | _ => cases looks

end Looked

/-! ## Pauses that are over

The pause that was armed when the session was dropped ends and connects.  It has to do so at the
same moment in both of the runs that are compared, whatever other pauses there are. -/

/-- Of what a client stops when it connects, only the pause before a pending retry is a pause. -/
theorem leavesPauses_wakeAll (s : System) {js : List Job} (others : ∀ token, .pause token ∉ js) :
    LeavesPauses s.agenda (s.wakeAll js).agenda := by
  induction js generalizing s with
  | nil => exact .refl _
  | cons j rest ih =>
      have first : LeavesPauses s.agenda (s.wake j).agenda :=
        .wake _ fun token own => others token (own ▸ List.mem_cons_self)
      exact first.trans (ih (s.wake j) fun token mem => others token (List.mem_cons_of_mem _ mem))

theorem pause_notMem_waiters (s : System) (c : Nat) (ids : List Nat) (token : Nat) :
    .pause token ∉ s.waiters c ids := by
  intro mem
  rcases List.mem_append.1 mem with mem | mem
  · obtain ⟨a, -, own⟩ := List.mem_filterMap.1 mem
    split at own
    · split at own <;> cases own
    all_goals cases own
  · obtain ⟨r, -, own⟩ := List.mem_filterMap.1 mem
    split at own
    · split at own <;> cases own
    · cases own

/-- A session that is disposed of wakes its callers, and no pause. -/
theorem leavesPauses_dispose (s : System) (c : Nat) :
    LeavesPauses s.agenda (s.dispose c).agenda := by
  unfold dispose
  simp only []
  split
  · exact .refl _
  · refine LeavesPauses.trans ?_ (leavesPauses_wakeAll _ (pause_notMem_waiters s c _))
    exact LeavesPauses.forget s.agenda (j := .reader c) nofun

theorem leavesPauses_leave (s : System) (phase : Phase) :
    LeavesPauses s.agenda (s.leave phase).agenda := by
  cases phase with
  | starting => exact .refl _
  | opening c => exact .refl _
  | handshaking c id due =>
      exact leavesPauses_dispose (s.update c fun k => { k with session := k.session.abandon id }) c
  | watching c => exact leavesPauses_dispose s c

/-- An attempt that is stopped takes its own timer away. -/
theorem leavesPauses_stopAttempt (s : System) :
    LeavesPauses s.agenda s.stopAttempt.agenda := by
  have ended (generation : Nat) : LeavesPauses s.agenda (s.endAttempt generation).agenda := by
    unfold endAttempt
    split
    · exact .refl _
    · refine LeavesPauses.trans ?_ (leavesPauses_leave _ _)
      exact LeavesPauses.forget s.agenda (j := .attempt generation) nofun
  unfold stopAttempt
  split
  · exact .refl _
  · exact ended _

theorem leavesPauses_stopChecks (s : System) : LeavesPauses s.agenda s.stopChecks.agenda := by
  unfold stopChecks
  split
  · exact .refl _
  · rename_i id _
    exact LeavesPauses.forget s.agenda (j := .checks id) nofun

/-- What was in use is given up; the peer may be made ready by that. -/
theorem leavesPauses_giveUp (s : System) : LeavesPauses s.agenda s.giveUp.agenda := by
  let r := { s with state := { s.state with current := none, socket := none } }
  have disposed : LeavesPauses s.agenda (r.disposeAny s.state.current).agenda := by
    cases s.state.current with
    | none => exact .refl _
    | some c => exact leavesPauses_dispose r c
  refine disposed.trans ?_
  show LeavesPauses _ ((r.disposeAny s.state.current).closeAny s.state.socket).agenda
  cases s.state.socket with
  | none => exact .refl _
  | some c =>
      unfold closeAny closeSocket exchange
      simp only []
      split
      · exact LeavesPauses.wake _ (j := .peer c) nofun
      · exact .refl _

theorem leavesPauses_startAttempt (s : System) (endpoint : String) :
    LeavesPauses s.agenda (s.startAttempt endpoint).agenda :=
  LeavesPauses.wake s.agenda (j := .attempt s.state.generation) nofun

/-- A client for which nothing is to be retried connects without touching any pause. -/
theorem leavesPauses_connect (idle : s.state.retry.pending = none) (endpoint : String) :
    LeavesPauses s.agenda (s.connect endpoint).agenda := by
  unfold connect
  split
  · exact .refl _
  · simp only []
    refine LeavesPauses.trans ?_ (leavesPauses_startAttempt _ endpoint)
    refine LeavesPauses.trans ?_ (leavesPauses_giveUp _)
    refine LeavesPauses.trans ?_ (leavesPauses_stopChecks _)
    refine LeavesPauses.trans ?_ (leavesPauses_stopAttempt _)
    rw [cancelRetry, stopPause]
    simp only [idle]
    exact .refl _

/-- What a client at work is left with by the pause before the pending retry, once it is over. -/
theorem endPause_leaves (working : Working s) (alive : s.alive = true) {token : Nat}
    (pending : s.state.retry.pending = some token) :
    (s.endPause token).pauses = [] ∧ LeavesPauses s.agenda (s.endPause token).agenda ∧
      (s.endPause token).state = match s.state.endpoint with
        | none => { s.state with retry := s.state.retry.cancel }
        | some endpoint => { s.state with
            generation := s.state.generation + 1, endpoint := some endpoint, socket := none
            current := none, retry := s.state.retry.cancel, checks := none
            task := some (s.state.generation + 1) } := by
  rw [endPause_eq working.pauses alive pending]
  cases s.state.endpoint with
  | none => exact ⟨rfl, .refl _, rfl⟩
  | some endpoint =>
      let r := { s with pauses := [], state := { s.state with retry := s.state.retry.cancel } }
      have tidy : r.Tidy := ⟨rfl, working.series, working.attempt, working.kept, working.coherent⟩
      obtain ⟨u, -, connected⟩ := connect_eq tidy working.lasting endpoint
      refine ⟨?_, leavesPauses_connect (s := r) rfl endpoint, state_connect (s := r) working.lasting endpoint⟩
      exact congrArg System.pauses connected

/-- While time passes and pauses come to run, nobody outside is concerned, and a session comes into
use by connecting only. -/
theorem unused_of_bides (working : Working s) (alive : s.alive = true)
    (unused : s.state.current = none) {a : Action} (bides : a.bides = true) :
    (s.act a).front = s.front ∧ (s.act a).state.destroyed = false ∧
      (s.act a).state.current = none := by
  have ended (token : Nat) : (s.endPause token).state.current = none := by
    by_cases pending : s.state.retry.pending = some token
    · obtain ⟨-, -, state⟩ := endPause_leaves working alive pending
      rw [state]
      split
      · exact unused
      · rfl
    · rw [endPause_of_ne pending]
      exact unused
  cases a with
  | wait ms => exact ⟨rfl, working.lasting, unused⟩
  | run job =>
      cases job with
      | pause token =>
          refine ⟨front_runPause s token, ?_, ?_⟩
          · exact (congrArg (fun standing => standing.configuration.destroyed)
              (standing_runPause s token)).trans working.lasting
          · show (s.runPause token).state.current = none
            unfold runPause
            split
            · exact unused
            · split
              · split
                · exact ended token
                · exact unused
              · simp only []
                split
                · exact ended token
                · exact unused
      | attempt generation => cases bides
      | reader c => cases bides
      | checks id => cases bides
      | request number => cases bides
      | peer c => cases bides
      | parcel number => cases bides
  | _ => cases bides

/-- Two clients that have, at the same time, the same state and the same pauses ahead. -/
structure Alike (s t : System) : Prop where
  state : t.state = s.state
  pauses : t.pauses = s.pauses
  agenda : LeavesPauses s.agenda t.agenda

namespace Alike

/-- A look on one of the two sides is not noticed by the other. -/
theorem of_looked {u : System} (alike : Alike s t) (looked : Looked t u) : Alike s u :=
  ⟨looked.state.trans alike.state, looked.pauses.trans alike.pauses,
    alike.agenda.trans looked.agenda⟩

theorem wait (alike : Alike s t) (ms : Nat) : Alike (s.act (.wait ms)) (t.act (.wait ms)) where
  state := alike.state
  pauses := alike.pauses
  agenda := by
    show LeavesPauses (s.agenda.reach (s.now + ms)) (t.agenda.reach (t.now + ms))
    rw [show t.now = s.now from alike.agenda.now]
    exact alike.agenda.reach _

/-- The pause of the pending retry ends for both, and both connect. -/
theorem endPause (alike : Alike s t) (working : Working s) (working' : Working t)
    (alive : s.alive = true) (alive' : t.alive = true) {token : Nat}
    (pending : s.state.retry.pending = some token) :
    Alike (s.endPause token) (t.endPause token) := by
  obtain ⟨pauses, agenda, state⟩ := endPause_leaves working alive pending
  obtain ⟨pauses', agenda', state'⟩ := endPause_leaves working' alive'
    (alike.state ▸ pending : t.state.retry.pending = some token)
  refine ⟨?_, pauses'.trans pauses.symm, ?_⟩
  · rw [state, state', alike.state]
  · refine ⟨?_, fun n => ?_, fun due n => ?_⟩
    · exact agenda'.now.trans (alike.agenda.now.trans agenda.now.symm)
    · exact (agenda'.ready n).trans ((alike.agenda.ready n).trans (agenda.ready n).symm)
    · exact (agenda'.timers due n).trans ((alike.agenda.timers due n).trans (agenda.timers due n).symm)

/-- A pause runs for both: it begins, waits or ends at the same time. -/
theorem runPause (alike : Alike s t) (working : Working s) (working' : Working t)
    (alive : s.alive = true) (alive' : t.alive = true) (token : Nat) :
    Alike (s.runPause token) (t.runPause token) := by
  unfold System.runPause
  rw [alike.pauses, show t.now = s.now from alike.agenda.now]
  split
  · exact alike
  · rename_i p found
    have own : p.token = token := by simpa using List.find?_some found
    have mem := List.mem_map_of_mem (f := Pause.token) (List.mem_of_find?_eq_some found)
    rw [working.pauses, own, Option.mem_toList] at mem
    have ended := alike.endPause working working' alive alive' mem
    split
    · split
      · exact ended
      · exact alike
    · simp only []
      split
      · exact ended
      · exact ⟨alike.state, rfl, alike.agenda.armed _ _⟩

theorem bide (alike : Alike s t) (working : Working s) (working' : Working t)
    (alive : s.alive = true) (alive' : t.alive = true) {a : Action} (bides : a.bides = true) :
    Alike (s.act a) (t.act a) := by
  cases a with
  | wait ms => exact alike.wait ms
  | run job =>
      cases job with
      | pause token => exact alike.runPause working working' alive alive' token
      | attempt generation => cases bides
      | reader c => cases bides
      | checks id => cases bides
      | request number => cases bides
      | peer c => cases bides
      | parcel number => cases bides
  | _ => cases bides

/-- However often a client without a session in use is looked at, time passes and pauses come to run
as if it had not been looked at. -/
theorem acts {options : Options} (run : Reachable options s) (run' : Reachable options t)
    (alive : s.alive = true) (alive' : t.alive = true) (lasting : s.state.destroyed = false)
    (unused : s.state.current = none) (alike : Alike s t) {actions : List Action}
    (each : ∀ a ∈ actions, a.looks = true ∨ a.bides = true)
    (unsent : ∀ n, .run (.request n) ∈ actions → ∀ r ∈ t.requests, r.number = n →
      r.stage = .starting) :
    Alike (s.acts (actions.filter Action.bides)) (t.acts actions) := by
  induction actions generalizing s t with
  | nil => exact alike
  | cons a rest ih =>
      have later : ∀ b ∈ rest, b.looks = true ∨ b.bides = true :=
        fun b mem => each b (List.mem_cons_of_mem _ mem)
      have lasting' : t.state.destroyed = false := alike.state ▸ lasting
      have unused' : t.state.current = none := alike.state ▸ unused
      cases bides : a.bides with
      | false =>
          have looks := (each a List.mem_cons_self).resolve_right (by simp [bides])
          have looked : Looked t (t.act a) := .act run'.numbered alive' lasting' unused' looks
            fun n own => unsent n (own ▸ List.mem_cons_self)
          rw [List.filter_cons_of_neg (by simp [bides])]
          refine ih run (run'.act a) alive (looked.alive alive') lasting unused
            (alike.of_looked looked) later fun n mem r there own => ?_
          exact (looked.requests r there).elim id fun before =>
            unsent n (List.mem_cons_of_mem _ mem) r before own
      | true =>
          rw [List.filter_cons_of_pos bides]
          have working := run.working alive lasting
          have working' := run'.working alive' lasting'
          obtain ⟨front, still, vacant⟩ := unused_of_bides working alive unused bides
          obtain ⟨front', -, -⟩ := unused_of_bides working' alive' unused' bides
          refine ih (run.act a) (run'.act a) ((alive_of_front front).trans alive)
            ((alive_of_front front').trans alive') still vacant
            (alike.bide working working' alive alive' bides) later ?_
          rw [show (t.act a).requests = t.requests from congrArg Front.requests front']
          exact fun n mem => unsent n (List.mem_cons_of_mem _ mem)

end Alike

/-! ## The question and what comes of it

Put together: a question that is answered with a session changes nothing, and one that is not
drops the session once and for all. -/

/-- Whoever asks for the session in use gets it if it can be used. -/
theorem validSession_eq_some_iff :
    s.validSession.1 = some c ↔ s.state.current = some c ∧
      (s.connection c).session.disposed = false ∧
        ((s.connection c).link.state = .connecting ∨ (s.connection c).link.state = .opened) := by
  have usable (d : Nat) : (s.connection d).inspect = .ok () ↔ _ :=
    Session.inspect_eq_ok_iff (s.connection d).session (s.connection d).link.state
  rcases validSession_cases s with
    ⟨none, valid⟩ | ⟨d, current, fine, valid⟩ | ⟨d, e, current, stale, valid⟩ <;> rw [valid]
  · simp [none]
  · rw [current]
    refine ⟨?_, fun there => there.1⟩
    rintro ⟨⟩
    exact ⟨rfl, (usable _).1 fine⟩
  · rw [current]
    refine ⟨nofun, ?_⟩
    rintro ⟨⟨⟩, there⟩
    cases ((usable _).2 there).symm.trans stale

/-- Whoever asks whether there is a connection asks for the session in use. -/
theorem act_checkConnected (s : System) : s.act .checkConnected = s.validSession.2 := by
  show s.isConnected.2 = _
  unfold isConnected
  split
  · rename_i valid
    rw [valid]
  · rename_i valid
    rw [valid]

/-- What comes of asking for the session in use. -/
structure KicksOnce (s : System) : Prop where
  /-- The answer is the session in use if it has not been disposed of and its socket is connecting
  or open. -/
  valid : ∀ c, s.validSession.1 = some c ↔ s.state.current = some c ∧
    (s.connection c).session.disposed = false ∧
      ((s.connection c).link.state = .connecting ∨ (s.connection c).link.state = .opened)
  kept : s.validSession.1 ≠ none → s.validSession.2 = s
  /-- If there is no answer, no session is in use afterwards. -/
  unused : s.validSession.1 = none → s.validSession.2.state.current = none
  idle : s.state.current = none → s.validSession.2 = s
  /-- A session that was in use has been dropped then. -/
  dropped : ∀ c, s.state.current = some c → s.validSession.1 = none → Dropped s s.validSession.2 c
  /-- Further looks neither arm the retry again nor touch what it waits for. -/
  still : s.state.current ≠ none → s.validSession.1 = none → ∀ looks : List Action,
    (∀ a ∈ looks, a.looks = true) →
    (∀ n, .run (.request n) ∈ looks → ∀ r ∈ s.requests, r.number = n → r.stage = .starting) →
    Alike s.validSession.2 (s.validSession.2.acts looks)
  /-- Nor do they put it off: as time passes, it comes when it would have come without them. -/
  onTime : s.state.current ≠ none → s.validSession.1 = none → ∀ actions : List Action,
    (∀ a ∈ actions, a.looks = true ∨ a.bides = true) →
    (∀ n, .run (.request n) ∈ actions → ∀ r ∈ s.requests, r.number = n → r.stage = .starting) →
    Alike (s.validSession.2.acts (actions.filter Action.bides)) (s.validSession.2.acts actions)

/-- In every run, whoever asks for the session in use learns whether it can be used, and drops it
and has one reconnect armed if it cannot. -/
theorem stale_kicks_once {options : Options} (run : Reachable options s)
    (lasting : s.state.destroyed = false) : KicksOnce s := by
  have after : Reachable options s.validSession.2 := act_checkConnected s ▸ run.act .checkConnected
  have drops : ∀ c, s.state.current = some c → s.validSession.1 = none →
      Dropped s s.validSession.2 c := by
    intro c current none
    rcases validSession_cases s with
      ⟨unused, valid⟩ | ⟨d, -, -, valid⟩ | ⟨d, e, there, -, valid⟩ <;> rw [valid] at none ⊢
    · cases unused.symm.trans current
    · cases none
    · cases current.symm.trans there
      exact dropped_recover run current
  have onTime : s.state.current ≠ none → s.validSession.1 = none → ∀ actions : List Action,
      (∀ a ∈ actions, a.looks = true ∨ a.bides = true) →
      (∀ n, .run (.request n) ∈ actions → ∀ r ∈ s.requests, r.number = n → r.stage = .starting) →
      Alike (s.validSession.2.acts (actions.filter Action.bides))
        (s.validSession.2.acts actions) := by
    intro used none actions each unsent
    obtain ⟨c, current⟩ := Option.ne_none_iff_exists'.1 used
    have dropped := drops c current none
    have front := front_validSession s
    have alive := (alive_of_front front).trans (run.alive_of_current current)
    refine Alike.acts after after alive alive ?_ ?_ ⟨rfl, rfl, .refl _⟩ each ?_
    · rw [dropped.state]
      exact lasting
    · rw [dropped.state]
    · rw [show s.validSession.2.requests = s.requests from congrArg Front.requests front]
      exact unsent
  refine ⟨fun _ => validSession_eq_some_iff, ?kept, ?unused, ?idle, drops, ?still, onTime⟩
  case kept =>
    intro some
    rcases validSession_cases s with ⟨-, valid⟩ | ⟨c, -, -, valid⟩ | ⟨c, e, -, -, valid⟩ <;>
      rw [valid] at some ⊢
    exact absurd rfl some
  case unused =>
    intro none
    cases current : s.state.current with
    | none =>
        rw [validSession, current]
        exact current
    | some c => rw [(drops c current none).state]
  case idle =>
    intro none
    rw [validSession, none]
  case still =>
    intro used none looks each unsent
    have nothing : looks.filter Action.bides = [] :=
      List.filter_eq_nil_iff.2 fun a mem => by simp [Action.bides_of_looks (each a mem)]
    have whole := onTime used none looks (fun a mem => .inl (each a mem)) unsent
    rwa [nothing] at whole

/-- A client whose server has begun to close the connection while a hover waits for its answer.  It
is asked four times in all within a health interval shorter than the pause before the retry. -/
def closingOnHover : System := (System.fresh { Options.standard with
    healthInterval := Duration.ofMillis 100 }).acts
  [.connect "one", .run (.attempt 1), .connectorOpened 1 .opened,
    .peerFeed 0 "\x7b\"id\":1,\"result\":\x7b\"hoverProvider\":true\x7d\x7d",
    .run (.reader 0), .run (.attempt 1), .run (.checks 1),
    .ask (.editor 1) .hover (.registered "python") "x" ⟨1, 1⟩, .run (.request 1),
    .peerState 0 .closing]

/-- What is done while the retry is pending. -/
def meanwhile : List Action :=
  [.run (.pause 1), .wait 100, .run (.checks 1), .updateSettings .null, .wait 100, .checkConnected,
    .ask (.editor 2) .hover .held "y" ⟨1, 1⟩, .run (.request 2), .run (.checks 1), .wait 300]

/-- The waiting hover has failed, and half a second after the session was dropped its retry is
due. -/
theorem closingOnHover_kicks_once :
    KicksOnce closingOnHover ∧ (closingOnHover.connection 0).session.pending = [2] ∧
      Dropped closingOnHover closingOnHover.validSession.2 0 ∧
      Alike (closingOnHover.validSession.2.acts [.run (.pause 1), .wait 100, .wait 100, .wait 300])
        (closingOnHover.validSession.2.acts meanwhile) ∧
      (closingOnHover.validSession.2.acts meanwhile).pauses = [⟨1, Duration.ofMillis 500, some 500⟩] ∧
      (closingOnHover.validSession.2.acts meanwhile).now = 500 := by
  have kicks : KicksOnce closingOnHover :=
    stale_kicks_once (Reachable.fresh.acts _ : Reachable _ closingOnHover) (by decide +kernel)
  have used : closingOnHover.state.current = some 0 := by decide +kernel
  have none : closingOnHover.validSession.1 = none := by decide +kernel
  refine ⟨kicks, by decide +kernel, kicks.dropped 0 used none, ?_, by decide +kernel, by decide +kernel⟩
  refine kicks.onTime (by simp [used]) none meanwhile (by decide) fun n mem r there own => ?_
  have unsent : n = 2 := by simpa [meanwhile] using mem
  have alone : ∀ r ∈ closingOnHover.requests, r.number ≠ 2 := by decide +kernel
  exact absurd (own.trans unsent) (alone r there)

end System
end LanguageBridge.Client
