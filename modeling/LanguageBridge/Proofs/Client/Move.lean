import LanguageBridge.Proofs.Client.Step
import LanguageBridge.Proofs.Client.Working

/-!
# What one step does to a client at work

`Step` lists what can happen; `System.Move` lists what it can come to when the client is at work.  A
late call of the connector, a pause that is not the pending one and the like have no effect any more
and do not show up; what is left are a dozen changes of a few named fields, each with everything
that is known when it happens.

## How it is used

An invariant of working clients is proved by going through the moves once, with no operation opened
(`Belongs.move`, `Held.move`, `Offered.move`, `Contained.move`).  That every step is a move is
proved here, one lemma for each operation (`Working.move_recover`, `Working.move_startSession` and
so on), and put together in `Working.move`.

That a client stays at work is itself proved over the moves (`Move.working`), and it is the first of
the invariants: what a step comes to is known only of a client at work, so the two are carried on
together through a run.
-/

namespace LanguageBridge.Client.System

variable {s t : System}

/-- What one step does to a client at work. -/
inductive Move (s : System) : System → Prop
  /-- Timers, readiness and traffic, which do not concern the client. -/
  | talk {t : System} (talk : Talk s t) : Move s t
  /-- Requests, configuration, and how far pauses and health checks have come. -/
  | aside {t : System}
      (rest : t = { s with
        state := { s.state with
          preamble := t.state.preamble, snippets := t.state.snippets, observer := t.state.observer }
        owned := t.owned, requests := t.requests, asked := t.asked, events := t.events
        observed := t.observed, answers := t.answers, pauses := t.pauses, series := t.series })
      (pauses : t.pauses.map Pause.token = s.pauses.map Pause.token)
      (series : t.series.map Checks.id = s.series.map Checks.id) : Move s t
  /-- A reconnect after the short delay.  No session is in use then, or one whose socket does not
  carry frames yet. -/
  | soon {u : System} {current : Option Nat} (calm : Calm s u)
      (settled : ∀ a ∈ s.attempts, ¬a.phase.Underway)
      (dropped : current = none ∨ current = s.state.current ∧
        ∀ c, s.state.current = some c → (s.connection c).link.state = .connecting)
      (left : current = none → ∀ c, s.state.current = some c →
        (u.connection c).session.disposed = true) :
      Move s { u with state := { s.state with current } }.reconnectSoon
  /-- A new attempt in place of everything that was there before. -/
  | start {u : System} (calm : Calm s u) (disposed : ∀ c, (u.connection c).session.disposed = true)
      (endpoint : String) {retry : Retry} (pending : retry.pending = none)
      (shut : ∀ c, s.state.socket = some c →
        SocketState.closing.rank ≤ (u.connection c).link.state.rank)
      (issued : retry.issued = s.state.retry.issued) :
      Move s { u with
        pauses := [], series := []
        attempts := [⟨s.state.generation + 1, endpoint, .starting⟩]
        state := { s.state with
          generation := s.state.generation + 1, endpoint := some endpoint
          current := none, socket := none, checks := none
          retry, task := some (s.state.generation + 1) } }
  /-- A retry that has nothing to connect to. -/
  | lapse (unplaced : s.state.endpoint = none) :
      Move s { s with pauses := [], state := { s.state with retry := s.state.retry.cancel } }
  /-- The attempt asks the connector for a connection. -/
  | call {a : Attempt} (single : s.attempts = [a]) (starting : a.phase = .starting) :
      Move s { s with
        connections := s.connections ++ [.called a.endpoint s.now]
        attempts := [{ a with phase := .opening s.connections.length }] }
  /-- The attempt starts a session on the connection that it has been given, whose socket the
  client takes over, and waits for the answer to its greeting. -/
  | greet {t : System} {a : Attempt} {c id due : Nat} (single : s.attempts = [a])
      (opening : a.phase = .opening c)
      (rest : t = { s with
        agenda := t.agenda, connections := t.connections, sessions := t.sessions
        attempts := [{ a with phase := .handshaking c id due }]
        state := { s.state with socket := some c } })
      (length : t.connections.length = s.connections.length)
      (kept : ∀ d, (t.connection d).session.disposed = false → d = c)
      (coherent : ∀ d, (t.connection d).Coherent)
      (others : ∀ d, d ≠ c → (s.connection d).Talk (t.connection d))
      (begun : c < s.connections.length → (s.connection c).Begun (t.connection c)) : Move s t
  /-- The attempt installs its session, and fresh providers and health checks with it. -/
  | install {agenda : Agenda Job} {connections : List Connection} {a : Attempt} {c : Nat}
      (talk : Talk s { s with connections }) (single : s.attempts = [a])
      (underway : a.phase.Underway) (session : a.phase.session? = some c)
      (opened : SocketState.opened.rank
        ≤ (({ s with connections } : System).connection c).link.state.rank) :
      Move s { s with
        agenda, connections
        pauses := []
        series := [⟨s.seriesMade + 1, .fresh s.state.options.healthInterval⟩]
        seriesMade := s.seriesMade + 1
        providersMade := s.providersMade + 1
        registry := (s.registry.registerAll s.state.options.languageId
          (s.providersMade + 1)).2.disposeAll s.state.handles
        attempts := [{ a with phase := .watching c }]
        state := { s.state with
          current := some c, installed := some ⟨c, a.generation⟩
          retry := s.state.retry.cancel.reset, checks := some (s.seriesMade + 1)
          handles := (s.registry.registerAll s.state.options.languageId
            (s.providersMade + 1)).1 } }
  /-- The attempt is over: it has failed, or its connection has closed. -/
  | finish {agenda : Agenda Job} {connections : List Connection} {sessions : Nat} {a : Attempt}
      (single : s.attempts = [a]) (length : connections.length = s.connections.length)
      (disposed : ∀ c, (({ s with connections } : System).connection c).session.disposed = true)
      (coherent : ∀ c, (({ s with connections } : System).connection c).Coherent)
      (shut : ∀ c, SocketState.closing.rank
          ≤ (({ s with connections } : System).connection c).link.state.rank ∨
        a.phase.session? ≠ some c ∧ (s.connection c).link.state.rank
          ≤ (({ s with connections } : System).connection c).link.state.rank) :
      Move s { s with
        agenda, connections, sessions
        attempts := []
        pauses := [⟨s.state.retry.issued + 1,
          s.state.retry.backoff.delay s.state.retry.attempts, none⟩]
        series := []
        state := { s.state with
          current := none, socket := none, checks := none
          retry := s.state.retry.scheduleBackoff.2 } }
  | destroy : Move s s.destroy

/-! ## Moves keep a client at work

One case for each move.  What a move has to say about its moment is exactly what is needed here
and in the invariants that are proved over moves elsewhere. -/

/-- A move leaves a client at work, unless it is its destruction. -/
theorem Move.working (move : Move s t) (working : Working s) : Working t ∨ t = s.destroy := by
  cases move with
  | talk talk => exact Or.inl (working.talk talk)
  | aside rest pauses series =>
      rw [rest]
      exact Or.inl { working with
        pauses := pauses.trans working.pauses
        series := series.trans working.series }
  | @soon u current calm settled dropped left =>
      have same : Working u := working.calm calm
      have narrower : current = u.state.current ∨ current = none := by
        rcases dropped with none | ⟨kept, -⟩
        · exact Or.inr none
        · exact Or.inl (kept.trans (congrArg State.current calm.state.symm))
      rw [← calm.state]
      exact Or.inl (same.reconnectSoon (calm.attempts ▸ settled) narrower)
  | start calm disposed endpoint pending shut issued =>
      exact Or.inl (working.started calm disposed endpoint pending)
  | lapse unplaced =>
      exact Or.inl { working with
        pauses := rfl
        recovery := by
          intro placed
          rw [show _ = none from unplaced] at placed
          cases placed
        alone := fun _ _ _ => rfl }
  | @call a single starting =>
      have underway : a.phase.Underway := by
        rw [starting]
        trivial
      refine Or.inl (working.phased single underway (.opening s.connections.length) trivial ?_ ?_)
      · intro c usable
        rw [connection_append] at usable
        split at usable
        · -- The new connection has no session yet.
          cases usable
        · obtain ⟨b, own, keeps⟩ := working.kept c usable
          rw [single, List.mem_singleton] at own
          rw [own, starting] at keeps
          cases keeps
      · intro c
        rw [connection_append]
        split
        · exact Connection.coherent_called _ _
        · exact working.coherent c
  | @greet t a c id due single opening rest length kept coherent others begun =>
      have underway : a.phase.Underway := by
        rw [opening]
        trivial
      have held : Working { s with state := { s.state with socket := some c } } :=
        { working with }
      rw [rest]
      refine Or.inl (held.phased single underway (.handshaking c id due) trivial ?_ coherent)
      intro d usable
      exact congrArg some (kept d usable).symm
  | install talk single underway session opened =>
      exact Or.inl ((working.talk talk).installs single session)
  | finish single length disposed coherent shut =>
      exact Or.inl (working.failed disposed coherent)
  | destroy => exact Or.inr rfl

/-! ## Every step is a move

Each operation is split along its guards.  Where a guard fails nothing happens, or what is left
over is put away calmly; where it holds, the equation of the operation gives the move. -/

namespace Working

/-- A pause whose token is not pending does not go on. -/
theorem pauses_filter_of_ne (working : Working s) {token : Nat}
    (stale : s.state.retry.pending ≠ some token) :
    s.pauses.filter (·.token ≠ token) = s.pauses := by
  refine List.filter_eq_self.2 fun p mem => ?_
  have own : p.token ∈ s.state.retry.pending.toList := by
    rw [← working.pauses]
    exact List.mem_map_of_mem mem
  rw [decide_eq_true_iff]
  rintro rfl
  exact stale (Option.mem_toList.1 own)

/-- A session that is found stale is dropped, or nothing happens. -/
theorem move_recover (working : Working s) (c : Nat) : Move s (s.recover c) := by
  unfold System.recover
  split
  · rename_i d current
    split
    · rename_i own
      -- The session in use goes, and a retry takes its place.
      let r := { s with state := { s.state with current := none } }
      have disposed : Calm r (r.dispose c) := .dispose r c
      have same : r.dispose c = { s with
          agenda := (r.dispose c).agenda, connections := (r.dispose c).connections
          state := { s.state with current := none } } := disposed.rest
      have left : Calm s { s with
          agenda := (r.dispose c).agenda, connections := (r.dispose c).connections } :=
        ⟨rfl, disposed.length, disposed.connection⟩
      show Move s (r.dispose c).reconnectSoon
      rw [same]
      refine .soon left (working.settled current) (.inl rfl) ?_
      rintro - e used
      obtain rfl : c = e := own.symm.trans (Option.some.inj (current.symm.trans used))
      exact disposed_dispose_self r c
    · exact .talk (Calm.refl s).talk
  · rename_i unused
    split
    · -- Nothing is in use, but this is the session that was installed last.
      rename_i own
      refine .soon (.refl s) (working.since _ own rfl) (.inr ⟨rfl, ?_⟩) ?_
      · intro c current
        cases unused.symm.trans current
      · intro _ c current
        cases unused.symm.trans current
    · exact .talk (Calm.refl s).talk

/-- The end of a pause starts the attempt that it was for, or nothing happens. -/
theorem move_endPause (working : Working s) (alive : s.alive = true) (token : Nat) :
    Move s (s.endPause token) := by
  by_cases pending : s.state.retry.pending = some token
  · rw [endPause_eq working.pauses alive pending]
    cases placed : s.state.endpoint with
    | none => exact .lapse placed
    | some endpoint =>
        obtain ⟨t, gone, connected⟩ := connect_eq (s := { s with
            pauses := [], state := { s.state with retry := s.state.retry.cancel } })
          ⟨rfl, working.series, working.attempt, working.kept, working.coherent⟩ working.lasting
          endpoint
        have cleared : Calm s { s with agenda := t.agenda, connections := t.connections } :=
          ⟨rfl, gone.calm.length, gone.calm.connection⟩
        simp only [connected]
        rw [gone.calm.rest]
        exact .start cleared gone.disposed endpoint (Retry.pending_cancel s.state.retry.cancel)
          gone.shut rfl
  · -- The pause of a retry that is not pending any more.
    rw [endPause_of_ne pending, working.pauses_filter_of_ne pending]
    exact .talk (Calm.refl s).talk

/-- The two ways in which the handshake of a working client ends: the session is installed, on a
socket that carries frames, or the attempt is over. -/
theorem finishHandshake_cases (working : Working s) (alive : s.alive = true) {a : Attempt}
    (mem : a ∈ s.attempts) (c : Nat) (outcome : Outcome) :
    ∃ t, Talk s t ∧
      ((s.connection c).link.state = .opened ∧
          s.finishHandshake a.generation c outcome = t.install a.generation c ∨
        SocketState.closing.rank ≤ (t.connection c).link.state.rank ∧
          s.finishHandshake a.generation c outcome = t.finishAttempt a.generation) := by
  rcases finished : (s.connection c).session.finishHandshake (s.connection c).link outcome
    with ⟨result, session, link⟩
  have spoke : Talk s ((s.disarm (.attempt a.generation)).exchange c session link) :=
    (Calm.disarm s _).talk.trans (.finishHandshake _ c finished)
  unfold System.finishHandshake
  simp only []
  rw [show ((s.disarm (.attempt a.generation)).connection c) = s.connection c from rfl, finished]
  cases result with
  | ok capabilities =>
      have wanted : (((s.disarm (.attempt a.generation)).exchange c session link).wanted
          a.generation) = true :=
        (working.talk spoke).wanted (spoke.alive.trans alive) (spoke.attempts ▸ mem)
      refine ⟨_, spoke, Or.inl ⟨Session.opened_of_finishHandshake finished, ?_⟩⟩
      simp only [wanted, if_true]
  | error e =>
      have closed := (Calm.dispose ((s.disarm (.attempt a.generation)).exchange c session link)
        c).trans (.closeSocket _ c)
      exact ⟨_, spoke.trans closed.talk, Or.inr ⟨closing_closeSocket _ c, rfl⟩⟩

/-- An attempt that is over.  The client may have taken the socket of its connection meanwhile. -/
theorem move_finishAttempt {agenda : Agenda Job} {connections : List Connection} {sessions : Nat}
    {socket : Option Nat} (working : Working { s with
      agenda, connections, sessions, state := { s.state with socket } })
    (alive : s.alive = true) {a : Attempt} (single : s.attempts = [a])
    (length : connections.length = s.connections.length)
    (shut : ∀ c, SocketState.closing.rank
        ≤ (({ s with connections } : System).connection c).link.state.rank ∨
      a.phase.session? ≠ some c ∧ (s.connection c).link.state.rank
        ≤ (({ s with connections } : System).connection c).link.state.rank) :
    Move s (({ s with agenda, connections, sessions, state := { s.state with socket } } :
      System).finishAttempt a.generation) := by
  have newest := working.newest a (by simp [single])
  obtain ⟨t, calm, disposed, given⟩ :=
    finishAttempt_eq working.toTidy alive working.lasting single newest
  rw [given, calm.rest]
  refine .finish single (calm.length.trans length) disposed
    (fun c => (calm.connection c).coherent (working.coherent c)) fun c => ?_
  rcases shut c with closing | ⟨other, onward⟩
  · exact Or.inl (Nat.le_trans closing (calm.connection c).rank)
  · exact Or.inr ⟨other, Nat.le_trans onward (calm.connection c).rank⟩

/-- The end of a handshake installs the session, or the attempt is over. -/
theorem move_finishHandshake (working : Working s) (alive : s.alive = true) (calm : Calm s t)
    {a : Attempt} (single : s.attempts = [a]) (underway : a.phase.Underway) {c : Nat}
    (session : a.phase.session? = some c) (outcome : Outcome) :
    Move s (t.finishHandshake a.generation c outcome) := by
  have mem : a ∈ t.attempts := by
    rw [calm.attempts, single]
    exact List.mem_singleton.2 rfl
  obtain ⟨u, talk, ⟨opened, installed⟩ | ⟨closing, given⟩⟩ :=
    (working.calm calm).finishHandshake_cases (calm.alive.trans alive) mem c outcome
  · have all := calm.talk.trans talk
    obtain ⟨agenda, made⟩ := install_eq ((working.calm calm).talk talk).toTidy a.generation c
    have told : Talk s { s with connections := u.connections } :=
      ⟨rfl, all.length, all.connection⟩
    rw [installed, made, all.attempts, single, all.rest]
    simp only [List.map_cons, List.map_nil, if_true]
    exact .install told single underway session (opened ▸ (talk.connection c).rank)
  · have all := calm.talk.trans talk
    have ended := working.talk all
    rw [given]
    rw [all.rest] at ended ⊢
    refine move_finishAttempt ended alive single all.length fun d => ?_
    by_cases same : d = c
    · rw [same]
      exact Or.inl closing
    · refine Or.inr ⟨?_, (all.connection d).rank⟩
      rw [session]
      exact fun own => same (Option.some.inj own).symm

/-- An attempt starts a session on the connection that it has been given, whatever was there
before. -/
theorem move_startSession (working : Working s) (alive : s.alive = true) {a : Attempt}
    (single : s.attempts = [a]) {c : Nat} (opening : a.phase = .opening c)
    {connections : List Connection} {state : SocketState}
    (length : connections.length = s.connections.length) (opened : c < s.connections.length →
      ({ s with connections } : System).connection c = (s.connection c).opened state)
    (others : ∀ d, d ≠ c → ({ s with connections } : System).connection d = s.connection d) :
    Move s (({ s with connections, state := { s.state with socket := some c } } :
      System).startSession a.generation c) := by
  let base : System := { s with connections, state := { s.state with socket := some c } }
  have elsewhere : ∀ d, d ≠ c → ((base.opening c).connection d).session.disposed = true := by
    intro d other
    by_contra usable
    rcases usable_of_started (Bool.eq_false_iff.2 usable) with same | before
    · exact other same
    · -- The attempt would have to keep the session, but it has none yet.
      obtain ⟨b, own, keeps⟩ := working.kept d (others d other ▸ before)
      rw [single, List.mem_singleton] at own
      rw [own, opening] at keeps
      cases keeps
  have coherent : ∀ d, ((base.opening c).connection d).Coherent := by
    refine coherent_started rfl fun d other => ?_
    have same : base.connection d = s.connection d := others d other
    exact same ▸ working.coherent d
  have elsewhere' : ∀ d, d ≠ c → (base.opening c).connection d = s.connection d :=
    fun d other => (connection_update_of_ne base _ other).trans (others d other)
  have long : (base.opening c).connections.length = s.connections.length :=
    (length_update _ c _).trans length
  have held : Working { s with state := { s.state with socket := some c } } := { working with }
  obtain ⟨call, session, link, greeted, begun⟩ := startSession_eq base a.generation c
  have spoke : Talk (base.opening c) ((base.opening c).exchange c session link) :=
    .call _ c greeted
  rw [begun]
  cases call with
  | «over» outcome =>
      -- No answer to wait for: the greeting could not be sent, or there was no time for it.
      obtain ⟨e, rfl⟩ := Session.error_of_call greeted
      obtain ⟨t, calm, shut, closing, finished⟩ :=
        finishHandshake_error ((base.opening c).exchange c session link) a.generation c e
      have talk := spoke.trans calm.talk
      have ended : Working t := by
        rw [talk.rest]
        refine held.of_connections ?_ fun d => (talk.connection d).coherent (coherent d)
        intro d usable
        by_cases same : d = c
        · cases shut.symm.trans (same ▸ usable)
        · cases (elsewhere d same).symm.trans ((talk.connection d).usable usable)
      simp only [finished]
      rw [talk.rest] at ended ⊢
      refine move_finishAttempt ended alive single (talk.length.trans long) fun d => ?_
      by_cases same : d = c
      · rw [same]
        exact Or.inl closing
      · refine Or.inr ⟨?_, ?_⟩
        · rw [opening]
          exact nofun
        · rw [← elsewhere' d same]
          exact (talk.connection d).rank
  | waiting id due =>
      simp only []
      rw [setPhase_eq (spoke.attempts.trans single), spoke.rest]
      refine .greet single opening rfl (spoke.length.trans long) ?_ ?_ ?_ ?_
      · intro d usable
        by_contra other
        cases (elsewhere d other).symm.trans ((spoke.connection d).usable usable)
      · exact fun d => (spoke.connection d).coherent (coherent d)
      · intro d other
        rw [← elsewhere' d other]
        exact spoke.connection d
      · intro within
        have opened' : base.connection c = (s.connection c).opened state := opened within
        have begun : (s.connection c).Begun ((base.opening c).connection c) := by
          rw [connection_opening base (length.symm ▸ within), opened']
          exact ⟨rfl, rfl, rfl⟩
        exact begun.talk (spoke.connection c)

/-- The connector comes back with a socket to start a session on, or to be closed at once. -/
theorem move_connectorOpened (working : Working s) (alive : s.alive = true) (generation : Nat)
    (state : SocketState) : Move s (s.connectorOpened generation state) := by
  unfold System.connectorOpened
  split
  · exact .talk (Calm.refl s).talk
  · rename_i c called
    obtain ⟨a, found, opening⟩ := call?_eq_some called
    obtain ⟨single, rfl, -⟩ := working.found found
    simp only [working.wanted alive (List.mem_of_find?_eq_some found), if_true]
    exact working.move_startSession alive single opening (length_update s c _)
      (fun within => connection_update s (·.opened state) within)
      fun d other => connection_update_of_ne s _ other

theorem move_connectorFailed (working : Working s) (alive : s.alive = true) (generation : Nat) :
    Move s (s.connectorFailed generation) := by
  unfold System.connectorFailed
  split
  · exact .talk (Calm.refl s).talk
  · rename_i c called
    obtain ⟨a, found, opening⟩ := call?_eq_some called
    obtain ⟨single, rfl, -⟩ := working.found found
    refine move_finishAttempt working alive single rfl fun d => Or.inr ⟨?_, Nat.le_refl _⟩
    rw [opening]
    exact nofun

/-- An attempt that has its turn calls the connector, ends its handshake or notices that its
session is over. -/
theorem move_runAttempt (working : Working s) (alive : s.alive = true) (generation : Nat) :
    Move s (s.runAttempt generation) := by
  have still : Move s s := .talk (Calm.refl s).talk
  unfold System.runAttempt
  split
  · exact still
  · rename_i a found
    obtain ⟨single, rfl, -⟩ := working.found found
    split
    · rename_i starting
      rw [callConnector, setPhase_eq
        (s := { s with connections := s.connections ++ [.called a.endpoint s.now] }) single]
      exact .call single starting
    · exact still
    · rename_i c id due handshaking
      have underway : a.phase.Underway := by
        rw [handshaking]
        trivial
      rcases resumed : (s.connection c).session.resume s.now id due with ⟨call, session⟩
      have looked : Calm s (s.update c fun k => { k with session }) := .resume resumed
      simp only [resumed]
      cases call with
      | «over» outcome =>
          refine working.move_finishHandshake alive looked single underway ?_ outcome
          rw [handshaking]
          rfl
      | waiting id' due' =>
          -- The attempt waits on as before.
          obtain ⟨rfl, rfl⟩ := Session.same_of_resume resumed
          rw [greeted, setPhase_eq (looked.attempts.trans single), ← handshaking, ← single]
          exact .talk looked.talk
    · rename_i c watching
      split
      · rename_i closed
        refine move_finishAttempt working alive single rfl fun d => ?_
        by_cases same : d = c
        · rw [same, closed]
          exact Or.inl (by decide)
        · refine Or.inr ⟨?_, Nat.le_refl _⟩
          rw [watching]
          exact fun own => same (Option.some.inj own).symm
      · exact still

/-- What one step of a living client at work comes to. -/
theorem move (working : Working s) (alive : s.alive = true) (step : Step s t) : Move s t := by
  have still : Move s s := .talk (Calm.refl s).talk
  cases step with
  | calm calm => exact .talk calm.talk
  | read c => exact .talk (.runReader s c)
  | send c m link current sent => exact .talk (.notify s c sent)
  | call c method params answer session link current called => exact .talk (.call s c called)
  | configure preamble snippets observer => exact .aside rfl rfl rfl
  | face rest kept =>
      rw [rest]
      exact .aside rfl rfl rfl
  | disown => exact .aside rfl rfl rfl
  | release =>
      rw [release, if_pos alive]
      exact still
  | recover c => exact working.move_recover c
  | nudge c current usable shut =>
      refine .soon (.refl s) (working.settled current) (.inr ⟨rfl, ?_⟩) ?_
      · intro d used
        -- A session that can be used on a socket that is not open: the socket is connecting.
        obtain rfl : c = d := Option.some.inj (current.symm.trans used)
        obtain ⟨-, connecting | opened⟩ := (Session.inspect_eq_ok_iff _ _).1 usable
        · exact connecting
        · rw [Link.isOpen, opened] at shut
          cases shut
      · intro none
        cases none.symm.trans current
  | connect endpoint =>
      obtain ⟨t, gone, connected⟩ := connect_eq working.toTidy working.lasting endpoint
      rw [connected]
      exact .start gone.calm gone.disposed endpoint (Retry.pending_cancel s.state.retry) gone.shut
        rfl
  | setEndpoint endpoint =>
      obtain ⟨t, gone, connected⟩ := setEndpoint_eq working.toTidy working.lasting endpoint
      rw [connected]
      exact .start gone.calm gone.disposed endpoint (Retry.pending_cancel s.state.retry.reset)
        gone.shut rfl
  | destroy => exact .destroy
  | check id monitor =>
      refine .aside rfl rfl ?_
      rw [setMonitor, List.map_map]
      refine List.map_congr_left fun m _ => ?_
      show Checks.id (if m.id = id then { m with monitor } else m) = m.id
      split <;> rfl
  | endChecks id finished =>
      rcases finished with gone | destroyed
      · cases alive.symm.trans gone
      · cases destroyed.symm.trans working.lasting
  | pause token due =>
      refine .aside rfl ?_ rfl
      rw [List.map_map]
      refine List.map_congr_left fun p _ => ?_
      show Pause.token (if p.token = token then { p with due := some due } else p) = p.token
      split <;> rfl
  | endPause token => exact working.move_endPause alive token
  | attempt generation => exact working.move_runAttempt alive generation
  | connectorFailed generation => exact working.move_connectorFailed alive generation
  | connectorOpened generation state => exact working.move_connectorOpened alive generation state

end Working
end LanguageBridge.Client.System
