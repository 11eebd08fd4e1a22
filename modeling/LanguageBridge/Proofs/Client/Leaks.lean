import LanguageBridge.Proofs.Client.Slot

/-!
# What leaks and what does not

Sockets and sessions come into being inside attempts, and an attempt may be superseded, stopped or
left behind by the end of its client wherever it waits.  `System.nothing_leaks` says what is there
nevertheless between any two actions of a run.

## While somebody holds the client

Nothing stays behind (`Leakless`).  A socket that the client does not hold is closing or closed, and
a session that can still be used is the one in use or that of the handshake under way.  The
invariant is `Contained`, kept by every move of a client at work and by every step of one at rest;
together with what is known of such clients otherwise it is `Tight`.

## After the owner has let go

A client that nobody holds any more is dropped, but the attempt that was under way or in use is not
stopped with it, and it keeps its connection for as long as the peer likes.  So one connection can
stay behind with an open socket and a session that is not over, and its reader goes on answering the
server (`unattended_leaks`).  It is the only one (`OneLeft`).  The invariant is `Confined`: what a
client holds while somebody holds it is what its attempt keeps, and from then on the attempt can
only wait, or end together with what it keeps.

That a socket stays closed, once it is, is up to its peer.  So all of this is about runs in which no
peer moves a socket backwards (`Steady`).  Actions of an owner on a client that they have let go of
are no part of any real run, and a theorem about what is left has to leave them out (`Sensible`).
-/

namespace LanguageBridge.Client.System

variable {s t : System}

/-! ## What is contained

The socket in the slot is the only one that may carry something, and the session in use the only
one that an attempt watches.  Neither says anything about how many attempts there are; that is
known of a client at work already. -/

/-- A client besides whose socket none carries anything, and whose attempt watches over no session
that can be used besides the one in use. -/
structure Contained (s : System) : Prop where
  shut : ∀ c, s.state.socket ≠ some c →
    SocketState.closing.rank ≤ (s.connection c).link.state.rank
  watched : ∀ a ∈ s.attempts, ∀ c, a.phase = .watching c →
    (s.connection c).session.disposed = false → s.state.current = some c

namespace Contained

/-- A fresh client has nothing to leave behind. -/
theorem fresh (options : Options) : Contained (.fresh options) where
  shut := by
    intro c _
    rw [connection_of_length_le _ (Nat.zero_le c)]
    decide
  watched := by simp [System.fresh]

theorem talk (contained : Contained s) (talk : Talk s t) : Contained t where
  shut := by
    intro c other
    rw [talk.state] at other
    exact Nat.le_trans (contained.shut c other) (talk.connection c).rank
  watched := by
    intro a mem c watching usable
    rw [talk.attempts] at mem
    rw [talk.state]
    exact contained.watched a mem c watching ((talk.connection c).usable usable)

/-- A reconnect after the short delay leaves the sockets alone.  The session that it drops from use
is over. -/
theorem reconnectSoon (contained : Contained s) (calm : Calm s t) {current : Option Nat}
    (dropped : current = none ∨ current = s.state.current)
    (left : current = none → ∀ c, s.state.current = some c →
      (t.connection c).session.disposed = true) :
    Contained { t with state := { s.state with current } }.reconnectSoon := by
  obtain ⟨agenda, pauses, retry, armed⟩ :=
    reconnectSoon_form { t with state := { s.state with current } }
  rw [armed]
  refine ⟨?_, ?_⟩
  · intro c other
    exact Nat.le_trans (contained.shut c other) (calm.connection c).rank
  · intro a mem c watching usable
    have own : a ∈ s.attempts := calm.attempts ▸ mem
    have before := contained.watched a own c watching ((calm.connection c).usable usable)
    rcases dropped with none | kept
    · cases (left none c before).symm.trans usable
    · exact kept.trans before

/-- What a move of a working client keeps. -/
theorem move (contained : Contained s) (held : Held s) (working : Working s) (move : Move s t) :
    Contained t := by
  cases move with
  | talk talk => exact contained.talk talk
  | aside rest pauses series =>
      rw [rest]
      exact ⟨contained.shut, contained.watched⟩
  | soon calm settled dropped left =>
      exact contained.reconnectSoon calm (dropped.imp_right And.left) left
  | @start u calm disposed endpoint retry pending shut issued =>
      refine ⟨?_, by simp⟩
      intro c _
      by_cases own : s.state.socket = some c
      · exact shut c own
      · exact Nat.le_trans (contained.shut c own) (calm.connection c).rank
  | lapse unplaced => exact ⟨contained.shut, contained.watched⟩
  | call single starting =>
      refine ⟨?_, by simp⟩
      intro c other
      show _ ≤ (({ s with connections := s.connections ++ [_] } : System).connection c).link.state.rank
      rw [connection_append]
      split
      · -- Not opened yet, the new connection counts as closed.
        exact (SocketState.rank_le_closed .closing)
      · exact contained.shut c other
  | @greet t a c id due single opening rest length kept coherent others begun =>
      have unheld : s.state.socket = none := by
        rw [held.socket_eq single, opening]
        rfl
      refine ⟨?_, ?_⟩
      · intro d other
        have apart : d ≠ c := by
          rintro rfl
          exact other (by rw [rest])
        have before := contained.shut d (by simp [unheld])
        exact Nat.le_trans before (others d apart).rank
      · rw [rest]
        simp
  | @install agenda connections a c talk single underway session opened =>
      refine ⟨(contained.talk talk).shut, ?_⟩
      intro b mem d watching _
      rw [List.mem_singleton.1 mem] at watching
      cases watching
      rfl
  | @finish agenda connections sessions a single length disposed coherent shut =>
      refine ⟨?_, by simp⟩
      intro c _
      rcases shut c with closing | ⟨other, onward⟩
      · exact closing
      · have before := contained.shut c (by rw [held.socket_eq single]; exact other)
        exact Nat.le_trans before onward
  | destroy =>
      obtain ⟨t, gone, destroyed⟩ := destroy_eq working.toTidy working.lasting
      rw [destroyed]
      refine ⟨?_, by simp⟩
      intro c _
      by_cases own : s.state.socket = some c
      · exact gone.shut c own
      · exact Nat.le_trans (contained.shut c own) (gone.calm.connection c).rank

/-- What a step keeps that leaves a client at rest. -/
theorem rest (contained : Contained s) (quiet : Quiet s) (step : Step s t) : Contained t := by
  have still := (quiet.step step).1
  refine ⟨?_, by simp [still.attempts]⟩
  intro c _
  have before := contained.shut c (by simp [quiet.socket])
  exact Nat.le_trans before (quiet.connection step c).rank

end Contained

/-! ## A client that somebody holds

All that is known of a client that is held, in the two conditions in which it can be, put together
so that it is carried along a run as one. -/

/-- What is known of a client between two steps, as long as somebody holds it and no peer moves a
socket backwards. -/
inductive Tight (s : System) : Prop
  | working (working : Working s) (separate : Separate s) (held : Held s) (contained : Contained s)
  | quiet (quiet : Quiet s) (contained : Contained s)

namespace Tight

theorem contained (tight : Tight s) : Contained s := by
  cases tight with
  | working working separate held contained => exact contained
  | quiet quiet contained => exact contained

theorem fresh (options : Options) : Tight (.fresh options) :=
  .working (working_fresh options) (separate_fresh options) (.fresh options) (.fresh options)

/-- Every step of a client that somebody holds leaves it tight. -/
theorem step (tight : Tight s) (alive : s.alive = true) (step : Step s t) : Tight t := by
  cases tight with
  | working working separate held contained =>
      have move := working.move alive step
      rcases working.step alive step with after | quiet
      · exact .working after (separate.move working move)
          (held.move separate move after.lasting working) (contained.move held working move)
      · exact .quiet quiet (contained.move held working move)
  | quiet quiet contained => exact .quiet (quiet.step step).1 (contained.rest quiet step)

theorem steps (tight : Tight s) (steps : Steps s t) (alive : t.alive = true) : Tight t :=
  steps.keep (fun before _ tight step => tight.step before step) alive tight

end Tight

/-- At every moment of every run in which no peer moves a socket backwards. -/
theorem Steady.tight {options : Options} (run : Steady options s) (alive : s.alive = true) :
    Tight s :=
  run.invariant (.fresh options) (fun before _ tight step => tight.step before step) alive

/-! ## A client that nobody holds any more

The slots are empty now, so what is left has to be told from the attempt alone. -/

/-- A client whose attempt keeps, besides itself, one connection at most. -/
structure Confined (s : System) : Prop where
  single : s.attempts.length ≤ 1
  newest : ∀ a ∈ s.attempts, a.generation = s.state.generation
  kept : ∀ c, (s.connection c).session.disposed = false → ∃ a ∈ s.attempts, a.phase.session? = some c
  shut : ∀ c, (∀ a ∈ s.attempts, a.phase.session? ≠ some c) →
    SocketState.closing.rank ≤ (s.connection c).link.state.rank
  coherent : ∀ c, (s.connection c).Coherent

namespace Confined

/-- What a client holds while somebody holds it is what its attempt keeps. -/
theorem of_tight (tight : Tight s) : Confined s := by
  cases tight with
  | working working separate held contained =>
      refine ⟨?_, working.newest, working.kept, fun c left => ?_, working.coherent⟩
      · cases attempts : s.attempts with
        | nil => exact Nat.zero_le 1
        | cons a rest =>
            have single := (working.attempt a (by simp [attempts])).1
            rw [← attempts, single]
            exact Nat.le_refl 1
      · refine contained.shut c fun own => ?_
        rw [held.socket] at own
        obtain ⟨a, first, keeps⟩ := Option.bind_eq_some_iff.1 own
        exact left a (List.mem_of_mem_head? first) keeps
  | quiet quiet contained =>
      refine ⟨?_, ?_, fun c usable => ?_, fun c _ => ?_, quiet.coherent⟩
      · simp [quiet.attempts]
      · simp [quiet.attempts]
      · cases (quiet.disposed c).symm.trans usable
      · exact contained.shut c (by simp [quiet.socket])

/-- The attempt, if there is one, is the only one. -/
theorem only (confined : Confined s) {a : Attempt} (mem : a ∈ s.attempts) : s.attempts = [a] := by
  match own : s.attempts with
  | [] =>
      rw [own] at mem
      cases mem
  | [b] =>
      rw [own] at mem
      rw [List.mem_singleton.1 mem]
  | b :: b' :: rest => exact absurd (own ▸ confined.single) (by simp)

theorem found (confined : Confined s) {generation : Nat} {a : Attempt}
    (found : s.attempts.find? (·.generation = generation) = some a) :
    s.attempts = [a] ∧ a.generation = generation :=
  ⟨confined.only (List.mem_of_find?_eq_some found), by simpa using List.find?_some found⟩

/-- Connections that go on, beside the same attempt. -/
theorem goOn (confined : Confined s) (attempts : t.attempts = s.attempts)
    (generation : t.state.generation = s.state.generation)
    (connection : ∀ c, (s.connection c).Talk (t.connection c)) : Confined t where
  single := attempts ▸ confined.single
  newest := by
    rw [attempts, generation]
    exact confined.newest
  kept := by
    rw [attempts]
    exact fun c usable => confined.kept c ((connection c).usable usable)
  shut := by
    rw [attempts]
    exact fun c left => Nat.le_trans (confined.shut c left) (connection c).rank
  coherent := fun c => (connection c).coherent (confined.coherent c)

theorem talk (confined : Confined s) (talk : Talk s t) : Confined t :=
  confined.goOn talk.attempts (by rw [talk.state]) talk.connection

/-- A change of nothing but what the outside, the retries and the health checks see. -/
theorem aside (confined : Confined s) (attempts : t.attempts = s.attempts)
    (generation : t.state.generation = s.state.generation)
    (connections : t.connections = s.connections) : Confined t := by
  refine confined.goOn attempts generation fun c => ?_
  have same : t.connection c = s.connection c := by
    rw [System.connection, connections, ← System.connection]
  rw [same]

theorem session_update (s : System) {c : Nat} {f : Connection → Connection}
    (keeps : ∀ k, (f k).session = k.session) (d : Nat) :
    ((s.update c f).connection d).session = (s.connection d).session := by
  rw [connection_update_eq]
  split
  · exact keeps _
  · rfl

theorem session_closeSocket (s : System) (c d : Nat) :
    ((s.closeSocket c).connection d).session = (s.connection d).session := by
  rw [closeSocket, connection_exchange]
  split
  · rename_i own
    rw [own.1]
  · rfl

/-! ### What a client that is gone still does

The owner does not run any more, so no generation begins and nothing is installed.  What is left
is an attempt that goes on by itself.  Each of its steps keeps the attempt where it is, moves it
to the next phase on the same connection, or ends it; and when it ends, its session is disposed of
and its socket is closed. -/

theorem release (confined : Confined s) : Confined s.release := by
  have cancelled : Confined s.cancelRetry := by
    unfold cancelRetry stopPause
    split <;> exact confined.aside rfl rfl rfl
  have stopped : Confined s.cancelRetry.stopChecks := by
    unfold stopChecks
    split
    · exact cancelled
    · exact cancelled.aside rfl rfl rfl
  unfold System.release
  split
  · exact confined
  · exact stopped.aside rfl rfl rfl

/-- An attempt that ends has had its socket closed, and it ends its session itself. -/
theorem endAttempt (confined : Confined s) {a : Attempt} (single : s.attempts = [a])
    (shut : ∀ c, a.phase.session? = some c →
      SocketState.closing.rank ≤ (s.connection c).link.state.rank) :
    Confined (s.endAttempt a.generation) := by
  obtain ⟨t, calm, disposed, ended⟩ := endAttempt_eq single
  rw [ended]
  refine ⟨Nat.zero_le 1, nofun, fun c usable => ?_, fun c _ => ?_, fun c => ?_⟩
  · obtain ⟨b, mem, keeps⟩ := confined.kept c ((calm.connection c).usable usable)
    rw [single, List.mem_singleton] at mem
    cases (disposed c (mem ▸ keeps)).symm.trans usable
  · refine Nat.le_trans ?_ (calm.connection c).rank
    by_cases keeps : a.phase.session? = some c
    · exact shut c keeps
    · refine confined.shut c fun b mem => ?_
      rw [single, List.mem_singleton] at mem
      exact mem ▸ keeps
  · exact (calm.connection c).coherent (confined.coherent c)

/-- An attempt that waits for its connector keeps nothing that would have to be closed. -/
theorem endOpening (confined : Confined s) {a : Attempt} (single : s.attempts = [a]) {c : Nat}
    (opening : a.phase = .opening c) : Confined (s.endAttempt a.generation) := by
  refine confined.endAttempt single fun d keeps => ?_
  rw [opening] at keeps
  cases keeps

/-- One socket that nobody reads any more is shut, and all else goes on without a session being
touched. -/
theorem shutDown (confined : Confined s) {c : Nat} (attempts : t.attempts = s.attempts)
    (generation : t.state.generation = s.state.generation)
    (session : ∀ d, (t.connection d).session = (s.connection d).session)
    (others : ∀ d, d ≠ c → (s.connection d).Calm (t.connection d))
    (shut : SocketState.closing.rank ≤ (t.connection c).link.state.rank)
    (silent : (t.connection c).link.listening = false) : Confined t where
  single := attempts ▸ confined.single
  newest := by
    rw [attempts, generation]
    exact confined.newest
  kept := by
    intro d usable
    rw [session] at usable
    rw [attempts]
    exact confined.kept d usable
  shut := by
    intro d keeps
    rw [attempts] at keeps
    by_cases own : d = c
    · rw [own]
      exact shut
    · exact Nat.le_trans (confined.shut d keeps) (others d own).rank
  coherent := by
    intro d
    by_cases own : d = c
    · rw [own]
      refine ⟨fun listening => (nomatch silent.symm.trans listening), ?_⟩
      rw [session]
      exact (confined.coherent c).drained
    · exact (others d own).coherent (confined.coherent d)

/-- The end of a handshake leaves what the attempt keeps, or ends both. -/
theorem finishHandshake (confined : Confined s) (gone : s.alive = false) {a : Attempt}
    (single : s.attempts = [a]) {c : Nat} (keeps : a.phase.session? = some c) (outcome : Outcome) :
    Confined (s.finishHandshake a.generation c outcome) := by
  obtain ⟨t, talk, closing, ended⟩ := finishHandshake_of_gone gone a.generation c outcome
  rw [ended]
  refine (confined.talk talk).endAttempt (talk.attempts.trans single) fun d own => ?_
  rw [keeps] at own
  cases own
  exact closing

/-- The connector is asked for a connection that is not open yet. -/
theorem callConnector (confined : Confined s) {a : Attempt} (single : s.attempts = [a])
    (starting : a.phase = .starting) : Confined (s.callConnector a) := by
  -- An attempt that starts keeps nothing, so nothing can be used and all sockets are shut.
  have ended : ∀ c, (s.connection c).session.disposed = true := by
    intro c
    by_contra usable
    obtain ⟨b, mem, keeps⟩ := confined.kept c (Bool.eq_false_iff.2 usable)
    rw [single, List.mem_singleton] at mem
    rw [mem, starting] at keeps
    cases keeps
  have shut : ∀ c, SocketState.closing.rank ≤ (s.connection c).link.state.rank := by
    refine fun c => confined.shut c fun b mem => ?_
    rw [single, List.mem_singleton] at mem
    rw [mem, starting]
    exact nofun
  have connection := s.connection_append (.called a.endpoint s.now)
  rw [System.callConnector,
    setPhase_eq (s := { s with connections := s.connections ++ [.called a.endpoint s.now] }) single]
  refine ⟨Nat.le_refl 1, fun b mem => ?_, fun c usable => ?_, fun c _ => ?_, fun c => ?_⟩
  · rw [List.mem_singleton.1 mem]
    exact confined.newest a (by simp [single])
  · have disposed := connection c
    split at disposed
    · cases (congrArg (·.session.disposed) disposed).symm.trans usable
    · cases (ended c).symm.trans ((congrArg (·.session.disposed) disposed).symm.trans usable)
  · refine Eq.subst (motive := fun k : Connection => SocketState.closing.rank ≤ k.link.state.rank)
      (connection c).symm ?_
    split
    · exact SocketState.rank_le_closed .closing
    · exact shut c
  · refine Eq.subst (motive := Connection.Coherent) (connection c).symm ?_
    split
    · exact Connection.coherent_called _ _
    · exact confined.coherent c

/-- An attempt that has its turn goes on waiting, or ends with what it keeps. -/
theorem runAttempt (confined : Confined s) (gone : s.alive = false) (generation : Nat) :
    Confined (s.runAttempt generation) := by
  unfold System.runAttempt
  split
  · exact confined
  · rename_i a found
    obtain ⟨single, rfl⟩ := confined.found found
    split
    · rename_i starting
      exact confined.callConnector single starting
    · exact confined
    · rename_i c id due handshaking
      rcases resumed : (s.connection c).session.resume s.now id due with ⟨call, session⟩
      have looked : Calm s (s.update c fun k => { k with session }) := .resume resumed
      simp only [resumed]
      cases call with
      | «over» outcome =>
          refine (confined.talk looked.talk).finishHandshake gone single ?_ outcome
          rw [handshaking]
          rfl
      | waiting id' due' =>
          -- The attempt waits on as before.
          obtain ⟨rfl, rfl⟩ := Session.same_of_resume resumed
          rw [greeted, setPhase_eq (looked.attempts.trans single), ← handshaking, ← single]
          exact confined.talk looked.talk
    · rename_i c watching
      split
      · rename_i closed
        rw [finishAttempt_of_gone gone]
        refine confined.endAttempt single fun d keeps => ?_
        rw [watching] at keeps
        cases keeps
        rw [closed]
        decide
      · exact confined

theorem connectorFailed (confined : Confined s) (gone : s.alive = false) (generation : Nat) :
    Confined (s.connectorFailed generation) := by
  unfold System.connectorFailed
  split
  · exact confined
  · rename_i c called
    obtain ⟨a, found, opening⟩ := call?_eq_some called
    obtain ⟨single, rfl⟩ := confined.found found
    rw [finishAttempt_of_gone gone]
    exact confined.endOpening single opening

/-- A connection that nobody wants any more is closed again as soon as it is opened. -/
theorem connectorOpened (confined : Confined s) (gone : s.alive = false) (generation : Nat)
    (state : SocketState) : Confined (s.connectorOpened generation state) := by
  have unwanted : ¬s.wanted generation = true := by simp [wanted, gone]
  unfold System.connectorOpened
  split
  · exact confined
  · rename_i c called
    obtain ⟨a, found, opening⟩ := call?_eq_some called
    obtain ⟨single, rfl⟩ := confined.found found
    simp only [if_neg unwanted]
    let opened := s.update c fun k => k.opened state
    let closed := opened.closeSocket c
    let left := closed.update c fun k => { k with link := k.link.stopListening }
    have silenced : Calm closed left := .stopListening closed c
    have calm : Calm opened left := (Calm.closeSocket opened c).trans silenced
    have session : ∀ d, (left.connection d).session = (s.connection d).session := by
      intro d
      have before := session_update s (c := c) (f := fun k => k.opened state) (fun _ => rfl) d
      have after := session_update closed (c := c)
        (f := fun k => { k with link := k.link.stopListening }) (fun _ => rfl) d
      exact after.trans ((session_closeSocket opened c d).trans before)
    have shut : SocketState.closing.rank ≤ (left.connection c).link.state.rank :=
      Nat.le_trans (closing_closeSocket opened c) (silenced.connection c).rank
    have silent : (left.connection c).link.listening = false := by
      rw [connection_update_eq]
      split
      · rfl
      · rename_i beyond
        rw [connection_of_length_le closed (Nat.le_of_not_lt fun within => beyond ⟨rfl, within⟩)]
        rfl
    have others : ∀ d, d ≠ c → (s.connection d).Calm (left.connection d) :=
      fun d other => connection_update_of_ne s _ other ▸ calm.connection d
    have attempts : left.attempts = s.attempts := calm.attempts
    have generation : left.state.generation = s.state.generation :=
      congrArg State.generation calm.state
    have after : Confined left := confined.shutDown attempts generation session others shut silent
    exact after.endOpening (attempts.trans single) opening

/-! ### Actions

All that may still happen to a client that is gone, action by action.  Pauses and health checks
find that nobody wants them, and requests and readers leave the attempt alone. -/

theorem runPause (confined : Confined s) (gone : s.alive = false) (token : Nat) :
    Confined (s.runPause token) := by
  have «over» : Confined (s.endPause token) := by
    rw [endPause_of_gone gone]
    exact confined.aside rfl rfl rfl
  unfold System.runPause
  split
  · exact confined
  · split
    · split
      · exact «over»
      · exact confined
    · simp only []
      split
      · exact «over»
      · exact confined.aside rfl rfl rfl

theorem runChecks (confined : Confined s) (gone : s.alive = false) (id : Nat) :
    Confined (s.runChecks id) := by
  unfold System.runChecks
  split
  · exact confined
  · split
    · exact confined.aside rfl rfl rfl
    · split
      · exact confined
      · split
        · exact confined.aside rfl rfl rfl
        · rename_i served
          simp [gone] at served

/-- No request waits for an answer when nobody holds the client, so a request that runs ends. -/
theorem runRequest (confined : Confined s) (gone : s.alive = false) (number : Nat) :
    Confined (s.runRequest number) := by
  unfold System.runRequest
  split
  · exact confined
  · rename_i r found
    split
    · unfold startRequest
      rw [if_pos (by simp [gone])]
      refine Confined.release ?_
      unfold deliver
      split <;> exact confined.aside rfl rfl rfl
    · rename_i waiting
      have held : s.alive = true := by
        rw [System.alive, Bool.or_eq_true, List.any_eq_true]
        refine .inr ⟨r, List.mem_of_find?_eq_some found, ?_⟩
        rw [Request.connection?, waiting]
        rfl
      cases gone.symm.trans held

end Confined

/-! ### Runs in which the owner lets go for good

Somebody who has let go of a client has no way to reach it.  The actions themselves do not know
that, and a run in which an owner comes back has to be excluded. -/

/-- The actions that only somebody who holds the client can do. -/
def OfOwner : Action → Prop
  | .connect _ => True
  | .setEndpoint _ => True
  | .destroy => True
  | .checkConnected => True
  | .updateSettings _ => True
  | .setPreamble _ => True
  | .setSnippets _ => True
  | .setObserver _ => True
  | .disown => True
  | _ => False

/-- Whatever happens to a client that nobody holds. -/
theorem Confined.act (confined : Confined s) (gone : s.alive = false) {a : Action}
    (onward : s.Onward a) (other : ¬OfOwner a) : Confined (s.act a) := by
  cases a with
  | ask origin feature target text place => exact confined.aside rfl rfl rfl
  | run job =>
      cases job with
      | attempt generation => exact confined.runAttempt gone generation
      | reader c => exact confined.talk (.runReader s c)
      | pause token => exact confined.runPause gone token
      | checks id => exact confined.runChecks gone id
      | request number => exact confined.runRequest gone number
      | peer c => exact confined
      | parcel number => exact confined
  | wait ms => exact confined.aside rfl rfl rfl
  | connectorFailed generation => exact confined.connectorFailed gone generation
  | connectorOpened generation state => exact confined.connectorOpened gone generation state
  | peerState c next => exact confined.talk (Calm.peerState s c onward).talk
  | peerFeed c text => exact confined.talk (Calm.peerFeed s c text).talk
  | peerEndFeed c => exact confined.talk (Calm.peerEndFeed s c).talk
  | peerGone c => exact confined.talk (Calm.peerGone s c).talk
  | peerTake c => exact confined.talk (Calm.peerTake s c).talk
  | _ => exact absurd trivial other

/-- The systems that a fresh client can come to if no peer moves a socket backwards and nobody does
anything with a client that they have let go of. -/
inductive Sensible (options : Options) : System → Prop
  | fresh : Sensible options (.fresh options)
  | act {s : System} (a : Action) (onward : s.Onward a) (held : OfOwner a → s.owned = true) :
      Sensible options s → Sensible options (s.act a)

theorem Sensible.steady {options : Options} (run : Sensible options s) : Steady options s := by
  induction run with
  | fresh => exact .fresh
  | act a onward held _ ih => exact ih.act a onward

/-- What is neither the owner's nor a peer's that moves a socket. -/
theorem Sensible.acts {options : Options} (run : Sensible options s) {actions : List Action}
    (still : ∀ a ∈ actions, ∀ c next, a ≠ .peerState c next)
    (others : ∀ a ∈ actions, ¬OfOwner a) : Sensible options (s.acts actions) := by
  induction actions generalizing s with
  | nil => exact run
  | cons a rest ih =>
      have onward : s.Onward a := s.onward_of_still (still a List.mem_cons_self)
      exact ih (run.act a onward fun own => absurd own (others a List.mem_cons_self))
        (fun b mem => still b (List.mem_cons_of_mem a mem))
        fun b mem => others b (List.mem_cons_of_mem a mem)

/-- At every moment, before and after the owner lets go. -/
theorem Sensible.confined {options : Options} (run : Sensible options s) : Confined s := by
  induction run with
  | fresh => exact .of_tight (.fresh options)
  | @act s a onward held run ih =>
      have steady := run.steady
      cases alive : s.alive with
      | false =>
          refine ih.act alive onward fun own => ?_
          rw [System.alive, held own] at alive
          cases alive
      | true =>
          cases after : (s.act a).alive with
          | true => exact .of_tight ((steady.act a onward).tight after)
          | false =>
              -- Up to the moment at which the last one lets go, somebody holds the client.
              have released := released_act alive a
              generalize s.act a = t at released after ⊢
              cases released with
              | held here => cases after.symm.trans here
              | @dropped u v steps here gone rest =>
                  have before : Confined u := .of_tight ((steady.tight alive).steps steps here)
                  refine Confined.release (before.aside ?_ ?_ ?_) <;> rw [rest]

/-! ## Runs

What the two invariants mean for whoever looks at sockets and sessions, and a run for each of the
two cases: one in which nothing is left, and one in which a connection is. -/

/-- A client of which nothing has stayed behind. -/
structure Leakless (s : System) : Prop where
  single : s.attempts.length ≤ 1
  newest : ∀ a ∈ s.attempts, a.generation = s.state.generation
  /-- A connection counts as closed until the connector opens it. -/
  sockets : ∀ c, s.state.socket ≠ some c →
    (s.connection c).link.state = .closing ∨ (s.connection c).link.state = .closed
  /-- A connection counts as one with a disposed session until a session is started on it. -/
  sessions : ∀ c, s.state.current ≠ some c →
    (∀ a ∈ s.attempts, ∀ id due, a.phase ≠ .handshaking c id due) →
    (s.connection c).session.disposed = true ∧ (s.connection c).session.pending = []

/-- A session that can be used is the one in use, or a handshake is under way on it. -/
theorem Working.disposed (working : Working s) (contained : Contained s) {c : Nat}
    (unused : s.state.current ≠ some c)
    (greeted : ∀ a ∈ s.attempts, ∀ id due, a.phase ≠ .handshaking c id due) :
    (s.connection c).session.disposed = true := by
  by_contra usable
  have usable' := Bool.eq_false_iff.2 usable
  obtain ⟨a, mem, keeps⟩ := working.kept c usable'
  cases phase : a.phase with
  | starting =>
      rw [phase] at keeps
      cases keeps
  | opening d =>
      rw [phase] at keeps
      cases keeps
  | handshaking d id due =>
      rw [phase] at keeps
      cases keeps
      exact greeted a mem id due phase
  | watching d =>
      rw [phase] at keeps
      cases keeps
      exact unused (contained.watched a mem c phase usable')

/-- What is left of a client at most, with somebody to hold it or without: one attempt, and of
sockets that carry anything and of sessions that can be used those that this attempt keeps. -/
structure OneLeft (s : System) : Prop where
  single : s.attempts.length ≤ 1
  newest : ∀ a ∈ s.attempts, a.generation = s.state.generation
  sockets : ∀ c, (∀ a ∈ s.attempts, a.phase.session? ≠ some c) →
    (s.connection c).link.state = .closing ∨ (s.connection c).link.state = .closed
  sessions : ∀ c, (∀ a ∈ s.attempts, a.phase.session? ≠ some c) →
    (s.connection c).session.disposed = true ∧ (s.connection c).session.pending = []

theorem Confined.oneLeft (confined : Confined s) : OneLeft s where
  single := confined.single
  newest := confined.newest
  sockets := fun c left => (SocketState.closing_le_iff _).1 (confined.shut c left)
  sessions := by
    intro c left
    have ended : (s.connection c).session.disposed = true := by
      by_contra usable
      obtain ⟨a, mem, keeps⟩ := confined.kept c (Bool.eq_false_iff.2 usable)
      exact left a mem keeps
    exact ⟨ended, (confined.coherent c).drained ended⟩

/-- Of a tight client nothing is left behind. -/
theorem Tight.leakless (tight : Tight s) : Leakless s where
  single := (Confined.of_tight tight).single
  newest := (Confined.of_tight tight).newest
  sockets := fun c other => (SocketState.closing_le_iff _).1 (tight.contained.shut c other)
  sessions := by
    intro c unused greeted
    cases tight with
    | working working separate held contained =>
        have ended := working.disposed contained unused greeted
        exact ⟨ended, (working.coherent c).drained ended⟩
    | quiet quiet contained =>
        exact ⟨quiet.disposed c, (quiet.coherent c).drained (quiet.disposed c)⟩

/-- Whatever happens in a run in which no peer moves a socket backwards, of a client that somebody
holds nothing leaks.  At most one attempt is there, of the newest generation.  Every socket but the
one that the client holds is closing or closed.  Every session but the one in use and the one whose
handshake the attempt waits for is disposed of, and no request waits on it.

If the owner lets go of the client and leaves it alone from then on, one connection at most stays
behind, that of the attempt that was under way or in use. -/
theorem nothing_leaks {options : Options} (run : Steady options s) :
    (s.alive = true → Leakless s) ∧ (Sensible options s → OneLeft s) :=
  ⟨fun alive => (run.tight alive).leakless, fun sensible => sensible.confined.oneLeft⟩

/-- A client that has been given another endpoint during its first handshake, with a handshake under
way there. -/
def replaced : System := (System.fresh .standard).acts
  [.connect "one", .run (.attempt 1), .connectorOpened 1 .opened,
    .setEndpoint "two", .run (.attempt 2), .connectorOpened 2 .opened]

/-- A client whose session is in use. -/
def inService : System := ((System.fresh .standard).act (.connect "one")).acts
  [.run (.attempt 1), .connectorOpened 1 .opened, .peerFeed 0 "\x7b\"id\":1\x7d", .run (.reader 0),
    .run (.attempt 1)]

/-- The same client after its owner has let go of it. -/
def unattended : System := inService.act .disown

theorem sensible_unattended : Sensible .standard unattended := by
  have connected : Sensible .standard ((System.fresh .standard).act (.connect "one")) :=
    Sensible.fresh.act _ trivial fun _ => rfl
  have serving : Sensible .standard inService := connected.acts (by simp) (by simp [OfOwner])
  exact serving.act .disown trivial fun _ => by decide +kernel

theorem replaced_leakless :
    Leakless replaced ∧ (replaced.connection 0).link.state = .closing ∧
      (replaced.connection 0).session.disposed = true ∧ OneLeft unattended := by
  have run : Steady .standard replaced := Steady.fresh.acts (by simp)
  have left := (nothing_leaks sensible_unattended.steady).2 sensible_unattended
  exact ⟨(nothing_leaks run).1 (by decide +kernel), by decide +kernel, by decide +kernel, left⟩

/-- The connection of a client that is let go of does stay behind: its socket is open, its session
is not over, and its reader goes on answering the server. -/
theorem unattended_leaks : Steady .standard unattended ∧ ¬Leakless unattended ∧
    (unattended.connection 0).link.state = .opened ∧
    ((unattended.acts [.peerFeed 0 "\x7b\"id\":9,\"method\":\"ask\"\x7d", .run (.reader 0)]).connection
      0).link.queued
      = (unattended.connection 0).link.queued ++ [.frame (.acknowledgement (.nat 9))] := by
  have opened : (unattended.connection 0).link.state = .opened := by decide +kernel
  refine ⟨sensible_unattended.steady, fun leakless => ?_, opened, by decide +kernel⟩
  rcases leakless.sockets 0 (by decide +kernel) with closing | closed
  · cases closing.symm.trans opened
  · cases closed.symm.trans opened

end LanguageBridge.Client.System
