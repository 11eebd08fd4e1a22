import LanguageBridge.Client.Run
import LanguageBridge.Proofs.Client.Attention

/-!
# What a client does beside its requests

Connecting, retrying, shaking hands, checking health, reading and disposing of sessions: none of it
leaves a request of the editor waiting for something that cannot come any more.  That is shown here
for one operation after another, and at the end for every action in which no request runs and none
is made (`System.Attended.act`).

## Where something could go wrong

Most operations are covered by the calm steps they are made of.  Four need a reason of their own.

* `finishHandshake` and `startSession` touch a session by starting it afresh or by giving up its
  greeting.  Requests would be forgotten with it if any waited there, so both lemmas ask that none
  does; a session that is not installed has no callers among the requests (`Attended` says so by
  phases).
* `runReader` settles several requests at once and then may end the session.  Everyone who waited on
  it is woken, in one of two rounds.
* `wait` moves the clock over due times.  The timers that are passed wake their jobs.

The list `rs` of requests is a parameter and not read off the system: it is the same list before and
after, since no request runs here.
-/

namespace LanguageBridge.Client.System

variable {s : System} {rs : List Request}

namespace Attended

/-! ## Stopping and reconnecting

Whatever gives up a session disposes of it, and disposing wakes all callers.  That is the only way
in which these operations concern a request, so each proof ends in `Attended.settle`, or in the
remark that only jobs of other kinds were touched. -/

/-- A retry that is cancelled takes its own timer away and no other. -/
theorem cancelRetry (attended : Attended rs s) : Attended rs s.cancelRetry := by
  unfold System.cancelRetry stopPause
  split
  · exact attended.same rfl rfl (.refl _) fun _ => .inl
  · exact attended.same rfl rfl (.forget _ fun _ => nofun) fun _ => .inl

/-- The jobs of health checks are no jobs of requests. -/
theorem endChecks (attended : Attended rs s) (id : Nat) : Attended rs (s.endChecks id) :=
  attended.same rfl rfl (.forget _ fun _ => nofun) fun _ => .inl

/-- Health checks stop without anybody else noticing. -/
theorem stopChecks (attended : Attended rs s) : Attended rs s.stopChecks := by
  unfold System.stopChecks
  split
  · exact attended
  · exact (attended.endChecks _).same rfl rfl (.refl _) fun _ => .inl

/-- An attempt that ends disposes of its session, and whoever waits on it is woken. -/
theorem endAttempt (attended : Attended rs s) (generation : Nat) :
    Attended rs (s.endAttempt generation) := by
  unfold System.endAttempt
  split
  · exact attended
  · rename_i a found
    refine Attended.leave ?_ fun c => attended.early a (List.mem_of_find?_eq_some found) c
    exact attended.same rfl rfl (.forget _ fun _ => nofun) fun _ mem =>
      .inl (List.mem_filter.1 mem).1

theorem stopAttempt (attended : Attended rs s) : Attended rs s.stopAttempt := by
  unfold System.stopAttempt
  split
  · exact attended
  · exact (attended.endAttempt _).same rfl rfl (.refl _) fun _ => .inl

/-- The session in use is disposed of, so the requests on it fail and are told so. -/
theorem giveUp (attended : Attended rs s) : Attended rs s.giveUp := by
  refine Attended.closeAny (Attended.disposeAny ?_ s.state.current) s.state.socket
  exact attended.same rfl rfl (.refl _) fun _ => .inl

theorem armRetry (attended : Attended rs s) (how : Retry → Retry.Armed × Retry) :
    Attended rs (s.armRetry how) := by
  unfold System.armRetry stopPause
  split
  · exact attended.same rfl rfl (.wake _ _) fun _ => .inl
  · exact attended.same rfl rfl ((Spares.forget _ fun _ => by nofun).trans (.wake _ _)) fun _ => .inl

/-- A forced reconnect arms a retry or does nothing. -/
theorem reconnectSoon (attended : Attended rs s) : Attended rs s.reconnectSoon := by
  unfold System.reconnectSoon
  split
  · exact attended
  · exact attended.armRetry _

/-- A lost connection fails the requests on its session. -/
theorem lost (attended : Attended rs s) (generation : Nat) : Attended rs (s.lost generation) := by
  have cleared : Attended rs { s with state := { s.state with current := none, socket := none } } :=
    attended.same rfl rfl (.refl _) fun _ => .inl
  have idle := cleared.stopChecks
  unfold System.lost
  split
  · exact attended
  · refine Attended.disposeAny ?_ s.state.current
    split
    · exact idle
    · exact idle.armRetry _

/-- A new connection takes the old one's place.  Requests on the old one hear of it. -/
theorem connect (attended : Attended rs s) (endpoint : String) :
    Attended rs (s.connect endpoint) := by
  have renamed : Attended rs { s with state := { s.state with
      generation := s.state.generation + 1, endpoint := some endpoint } } :=
    attended.same rfl rfl (.refl _) fun _ => .inl
  unfold System.connect
  split
  · exact attended
  · refine renamed.cancelRetry.stopAttempt.stopChecks.giveUp.same rfl rfl (.wake _ _) fun a mem => ?_
    refine (List.mem_append.1 mem).imp_right fun new => ?_
    rw [List.mem_singleton.1 new]

/-- Another endpoint does the same, and forgets about failures. -/
theorem setEndpoint (attended : Attended rs s) (endpoint : String) :
    Attended rs (s.setEndpoint endpoint) := by
  unfold System.setEndpoint
  split
  · exact attended
  · refine Attended.connect (Attended.disposeAny ?_ s.state.current) endpoint
    exact attended.cancelRetry.same rfl rfl (.refl _) fun _ => .inl

theorem destroy (attended : Attended rs s) : Attended rs s.destroy := by
  have ended : Attended rs { s with state := { s.state with
      destroyed := true, generation := s.state.generation + 1, observer := none } } :=
    attended.same rfl rfl (.refl _) fun _ => .inl
  unfold System.destroy
  split
  · exact attended
  · refine Attended.giveUp ?_
    exact ended.cancelRetry.stopAttempt.stopChecks.same rfl rfl (.refl _) fun _ => .inl

/-- A client that is let go while requests wait on it is still held by them, so this changes
nothing for them. -/
theorem release (attended : Attended rs s) : Attended rs s.release := by
  unfold System.release
  split
  · exact attended
  · exact attended.cancelRetry.stopChecks.same rfl rfl (.refl _) fun _ => .inl

/-- A stale session is disposed of, and a retry armed. -/
theorem recover (attended : Attended rs s) (c : Nat) : Attended rs (s.recover c) := by
  unfold System.recover
  split
  · split
    · refine Attended.reconnectSoon (Attended.dispose ?_ c)
      exact attended.same rfl rfl (.refl _) fun _ => .inl
    · exact attended
  · split
    · exact attended.reconnectSoon
    · exact attended

/-! ## Validity checks, pauses and health checks

All of these may come across a stale session and recover from it.  Otherwise they do nothing to a
request: a frame that is queued stands behind the others, and the jobs are not those of requests. -/

/-- The failure of one request may end the session of others; they are told. -/
theorem requestFailed (attended : Attended rs s) (c : Nat) (e : Failure) :
    Attended rs (s.requestFailed c e) := by
  unfold System.requestFailed
  split
  · exact attended.recover c
  · exact attended

theorem validSession (attended : Attended rs s) : Attended rs s.validSession.2 := by
  rcases validSession_cases s with ⟨-, valid⟩ | ⟨c, -, -, valid⟩ | ⟨c, e, -, -, valid⟩
  · rwa [valid]
  · rwa [valid]
  · rw [valid]
    exact attended.recover c

/-- Asking about the connection can drop a stale session as well. -/
theorem isConnected (attended : Attended rs s) : Attended rs s.isConnected.2 := by
  have checked := attended.validSession
  unfold System.isConnected
  split
  · rename_i valid
    rwa [valid] at checked
  · rename_i valid
    rwa [valid] at checked

theorem checkHealth (attended : Attended rs s) : Attended rs s.checkHealth := by
  have checked := attended.validSession
  unfold System.checkHealth
  split
  · rename_i valid
    rwa [valid] at checked
  · rename_i valid
    rw [valid] at checked
    split
    · exact checked
    · exact checked.reconnectSoon

/-- A frame is queued behind the others; nobody who waits is concerned. -/
theorem notify (attended : Attended rs s) (c : Nat) (m : Message) :
    Attended rs (s.notify c m).2 := by
  rcases notify_cases s c m with ⟨link, -, told⟩ | ⟨e, -, told⟩
  · rw [told]
    exact attended.exchange fun _ _ _ _ _ minds => minds
  · rw [told]
    exact attended.requestFailed c e

theorem updateSettings (attended : Attended rs s) (settings : Json) :
    Attended rs (s.updateSettings settings).2 := by
  have checked := attended.validSession
  unfold System.updateSettings
  split
  · exact attended
  · split
    · rename_i valid
      rwa [valid] at checked
    · rename_i valid
      rw [valid] at checked
      exact checked.notify _ _

theorem endPause (attended : Attended rs s) (token : Nat) : Attended rs (s.endPause token) := by
  have taken (pauses : List Pause) (retry : Retry) :
      Attended rs { s with pauses, state := { s.state with retry } } :=
    attended.same rfl rfl (.refl _) fun _ => .inl
  unfold System.endPause
  simp only []
  split
  · exact taken _ s.state.retry
  · split
    · exact taken _ s.state.retry
    · split
      · exact taken _ _
      · exact (taken _ _).connect _

theorem runPause (attended : Attended rs s) (token : Nat) : Attended rs (s.runPause token) := by
  unfold System.runPause
  split
  · exact attended
  · split
    · split
      · exact attended.endPause token
      · exact attended
    · simp only []
      split
      · exact attended.endPause token
      · exact attended.same rfl rfl (.arm _ _ _) fun _ => .inl

theorem runChecks (attended : Attended rs s) (id : Nat) : Attended rs (s.runChecks id) := by
  unfold System.runChecks
  split
  · exact attended
  · split
    · exact attended.same rfl rfl (.arm _ _ _) fun _ => .inl
    · split
      · exact attended
      · split
        · exact attended.endChecks id
        · exact attended.checkHealth.same rfl rfl (.arm _ _ _) fun _ => .inl

/-! ## Attempts

An attempt works on a connection of which `Attended` says that nobody waits there yet.  So it may
start a session afresh, collect its own answer and give up its own request, although each of these
would lose a request that somebody else waited for. -/

/-- An attempt that is over may lose the connection. -/
theorem finishAttempt (attended : Attended rs s) (generation : Nat) :
    Attended rs (s.finishAttempt generation) := by
  unfold System.finishAttempt
  refine Attended.endAttempt ?_ generation
  split
  · exact attended.lost generation
  · exact attended

/-- An installation starts health checks and registers providers; it leaves all sessions alone. -/
theorem install (attended : Attended rs s) (generation c : Nat) :
    Attended rs (s.install generation c) := by
  have used : Attended rs { s.cancelRetry.resetAttempts with
      state := { s.cancelRetry.resetAttempts.state with
        current := some c, installed := some ⟨c, generation⟩ } } :=
    attended.cancelRetry.same rfl rfl (.refl _) fun _ => .inl
  refine Attended.setPhase ?_ generation fun d prepares => prepares.2.elim
  exact used.stopChecks.same rfl rfl (.wake _ _) fun _ => .inl

/-- A handshake that is over, on a connection on which nobody waits. -/
theorem finishHandshake (attended : Attended rs s) (generation : Nat) {c : Nat}
    (unwaited : Unwaited rs c) (outcome : Outcome) :
    Attended rs (s.finishHandshake generation c outcome) := by
  rcases finished : (s.connection c).session.finishHandshake (s.connection c).link outcome
    with ⟨result, session, link⟩
  have spoke : Attended rs ((s.disarm (.attempt generation)).exchange c session link) :=
    (attended.agenda (.disarm _ fun _ => by nofun)).exchange
      fun r mem id up waits => absurd waits (unwaited r mem id)
  have closed := (spoke.dispose c).closeSocket c
  unfold System.finishHandshake
  simp only []
  rw [show (s.disarm (.attempt generation)).connection c = s.connection c from rfl, finished]
  cases result with
  | ok capabilities =>
      simp only []
      split
      · exact spoke.install generation c
      · exact closed.endAttempt generation
  | error e => exact closed.finishAttempt generation

/-- So is a session that starts afresh. -/
theorem startSession (attended : Attended rs s) (generation : Nat) {c : Nat}
    (unwaited : Unwaited rs c) : Attended rs (s.startSession generation c) := by
  obtain ⟨call, session, link, -, begun⟩ := startSession_eq s generation c
  have alone {session' : Session} : ∀ r ∈ rs, ∀ id up, r.Waits c id →
      session'.Minds id up → session.Minds id up :=
    fun r mem id up waits => absurd waits (unwaited r mem id)
  have started : Attended rs (s.opening c) := by
    refine Attended.agenda (Attended.update (s := { s with sessions := s.sessions + 1 }) ?_
      fun r mem id up waits => absurd waits (unwaited r mem id)) (.wake _ _)
    exact attended.same rfl rfl (.refl _) fun _ => .inl
  have spoke : Attended rs ((s.opening c).exchange c session link) := started.exchange alone
  rw [begun]
  cases call with
  | «over» outcome => exact spoke.finishHandshake generation unwaited outcome
  | waiting id due =>
      refine Attended.agenda (spoke.setPhase generation fun d prepares => ?_) (.arm _ _ _)
      cases prepares.1
      exact unwaited

/-- A connector that fails has no session to speak of. -/
theorem connectorFailed (attended : Attended rs s) (generation : Nat) :
    Attended rs (s.connectorFailed generation) := by
  unfold System.connectorFailed
  split
  · exact attended
  · exact attended.finishAttempt generation

/-- A connection that is opened gets a fresh session, on which nobody can be waiting. -/
theorem connectorOpened (attended : Attended rs s) (generation : Nat) (state : SocketState) :
    Attended rs (s.connectorOpened generation state) := by
  unfold System.connectorOpened
  split
  · exact attended
  · rename_i c called
    obtain ⟨a, found, opening⟩ := call?_eq_some called
    have unwaited : Unwaited rs c :=
      attended.early a (List.mem_of_find?_eq_some found) c (by rw [opening]; exact ⟨rfl, trivial⟩)
    have opened : Attended rs (s.update c fun k => k.opened state) :=
      attended.update fun _ _ _ _ _ minds => minds
    simp only []
    split
    · refine Attended.startSession ?_ generation unwaited
      exact opened.same rfl rfl (.refl _) fun _ => .inl
    · refine Attended.endAttempt (Attended.update (opened.closeSocket c) ?_) generation
      exact fun _ _ _ _ _ minds => minds

/-- An attempt looks for its own answer.  What it collects is none of the answers that requests
wait for, because it is the only caller on its session. -/
theorem runAttempt (attended : Attended rs s) (generation : Nat) :
    Attended rs (s.runAttempt generation) := by
  unfold System.runAttempt
  split
  · exact attended
  · rename_i a found
    have own := attended.early a (List.mem_of_find?_eq_some found)
    split
    · -- The connector is asked for a connection that there has not been yet.
      have unwaited := attended.unwaited_of_beyond (Nat.le_refl s.connections.length)
      have asked : Attended rs { s with
          connections := s.connections ++ [.called a.endpoint s.now] } := by
        refine attended.step rfl (.refl _) (fun _ => .inl) fun r mem d id waits minds => ?_
        rw [connection_append]
        split
        · rename_i last
          exact absurd (last ▸ waits) (unwaited r mem id)
        · exact minds
      refine asked.setPhase a.generation fun c prepares => ?_
      cases prepares.1
      exact unwaited
    · exact attended
    · rename_i c id due handshaking
      have unwaited : Unwaited rs c := own c (by rw [handshaking]; exact ⟨rfl, trivial⟩)
      have looked : Attended rs (s.update c fun k =>
          { k with session := ((s.connection c).session.resume s.now id due).2 }) :=
        attended.update fun r mem other up waits => absurd waits (unwaited r mem other)
      simp only []
      unfold greeted
      split
      · exact looked.finishHandshake generation unwaited _
      · refine looked.setPhase generation fun d prepares => ?_
        cases prepares.1
        exact unwaited
    · split
      · exact attended.finishAttempt generation
      · exact attended

/-! ## Readers and peers

A reader settles requests one by one as it goes through the texts, and all at once if the texts
have ended.  It wakes whoever waits for what it has settled, which is the third way to go on,
`Attended.hear`. -/

/-- A reader wakes whoever waits for what it has read, and everybody when the texts have ended. -/
theorem runReader (attended : Attended rs s) (c : Nat) : Attended rs (s.runReader c) := by
  unfold System.runReader
  simp only []
  split
  · exact attended
  · rename_i listening
    have within : c < s.connections.length := by
      refine Nat.lt_of_not_le fun beyond => listening ?_
      rw [connection_of_length_le s beyond]
      rfl
    have read := Session.Remembers.foldl_read (s.connection c).link.inbound (s.connection c).session
      { (s.connection c).link with inbound := [] }
    revert read
    generalize List.foldl _ _ (s.connection c).link.inbound = read
    obtain ⟨session, link⟩ := read
    intro read
    have heard : Attended rs ((s.exchange c session link).wakeAll (s.waiters c
        ((s.connection c).session.pending.filter fun id => id ∉ session.pending))) := by
      refine attended.hear within read link fun r mem id waits pending gone => ?_
      exact mem_waiters (attended.among r mem) waits
        (List.mem_filter.2 ⟨pending, decide_eq_true gone⟩)
    simp only []
    split
    · exact heard
    · have own : (((s.exchange c session link).wakeAll (s.waiters c
          ((s.connection c).session.pending.filter fun id => id ∉ session.pending))).connection
            c).session = session := by
        rw [connection_wakeAll, connection_exchange, if_pos ⟨rfl, within⟩]
      refine heard.hear ?_ (own.symm ▸ .endOfTexts session) _ fun r mem id waits pending _ => ?_
      · rw [connections_wakeAll, length_exchange]
        exact within
      · exact mem_waiters (attended.among r mem) waits (own ▸ pending)

/-- What a peer does to the link of a connection. -/
theorem link (attended : Attended rs s) (c : Nat) (f : Link Message → Link Message) :
    Attended rs (s.update c fun k => { k with link := f k.link }) :=
  attended.update fun _ _ _ _ _ minds => minds

/-- A socket that moves wakes the attempt that watches it. -/
theorem peerState (attended : Attended rs s) (c : Nat) (next : SocketState) :
    Attended rs (s.peerState c next) := by
  have moved := attended.link c (·.setState next)
  unfold System.peerState
  simp only []
  split
  · exact moved.wakeAll _
  · exact moved

/-! ## Time

The clock is the only thing that makes a request ready without anybody settling it.  Its timer is
armed for its due time, and no timer is taken off the agenda before the clock has reached it. -/

/-- Whoever waits is woken when the time is up. -/
theorem wait (attended : Attended rs s) (ms : Nat) :
    Attended rs { s with agenda := s.agenda.reach (s.now + ms) } := by
  have later {j : Job} (there : j ∈ s.agenda.ready) : j ∈ (s.agenda.reach (s.now + ms)).ready :=
    Agenda.mem_ready_reach.2 (.inl there)
  refine ⟨attended.among, fun r mem => ?_, attended.early⟩
  have attends := attended.each r mem
  unfold Attends at attends ⊢
  split at attends
  · exact later attends
  · rename_i c id due lines _
    obtain ⟨minds, timed⟩ := attends
    refine ⟨minds.mono later, ?_⟩
    have now : ({ s with agenda := s.agenda.reach (s.now + ms) } : System).now = s.now + ms :=
      s.agenda.now_reach _
    rw [now]
    rcases timed with ⟨armed, -⟩ | ⟨past, ready⟩
    · rcases Nat.lt_or_ge (s.now + ms) due with early | up
      · exact .inl ⟨Agenda.mem_timers_reach.2 ⟨armed, early⟩, early⟩
      · exact .inr ⟨up, Agenda.mem_ready_reach.2 (.inr ⟨_, armed, up, rfl⟩)⟩
    · exact .inr ⟨Nat.le_add_right_of_le past, later ready⟩

/-! ## Actions

A request that runs is left out here.  It is looked after by nobody while it runs, and what
becomes of it and of the others then is said where requests have their turns. -/

/-- Every action beside a request that runs. -/
theorem act (attended : Attended rs s) {a : Action} (other : ∀ number, a ≠ .run (.request number)) :
    Attended rs (s.act a) := by
  cases a with
  | connect endpoint => exact attended.connect endpoint
  | setEndpoint endpoint => exact attended.setEndpoint endpoint
  | destroy => exact attended.destroy
  | checkConnected => exact attended.isConnected
  | updateSettings settings => exact attended.updateSettings settings
  | setPreamble preamble => exact attended.same rfl rfl (.refl _) fun _ => .inl
  | setSnippets snippets => exact attended.same rfl rfl (.refl _) fun _ => .inl
  | setObserver observer => exact attended.same rfl rfl (.refl _) fun _ => .inl
  | ask origin feature target text place =>
      refine ⟨fun r mem => List.mem_append_left _ (attended.among r mem), fun r mem => ?_,
        attended.early⟩
      refine (attended.each r mem).mono (.wake _ _) fun c id _ minds => ?_
      exact minds.mono ((Spares.wake _ _).ready _)
  | disown =>
      refine Attended.release ?_
      exact attended.same rfl rfl (.refl _) fun _ => .inl
  | run job =>
      cases job with
      | attempt generation => exact attended.runAttempt generation
      | reader c => exact attended.runReader c
      | pause token => exact attended.runPause token
      | checks id => exact attended.runChecks id
      | request number => exact absurd rfl (other number)
      | peer c => exact attended
      | parcel number => exact attended
  | wait ms => exact attended.wait ms
  | connectorFailed generation => exact attended.connectorFailed generation
  | connectorOpened generation state => exact attended.connectorOpened generation state
  | peerState c next => exact attended.peerState c next
  | peerFeed c text =>
      show Attended rs (s.peerFeed c text)
      unfold System.peerFeed
      split
      · exact (attended.link c (·.feed text)).agenda (.wake _ _)
      · exact attended
  | peerEndFeed c => exact (attended.link c (·.endFeed)).agenda (.wake _ _)
  | peerGone c =>
      exact ((attended.peerState c .closed).link c (·.dropPeer)).agenda (.wake _ _)
  | peerTake c => exact attended.update fun _ _ _ _ _ minds => minds

end Attended
end LanguageBridge.Client.System
