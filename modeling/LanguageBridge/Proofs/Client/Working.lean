import LanguageBridge.Proofs.Client.Operations
import LanguageBridge.Proofs.Editor.Registry

/-!
# The client at work

Until it is destroyed a client is *working*: what runs for it belongs to the newest generation, and
whenever there is an endpoint, a connection is under way, in use, or to be retried.  That is an
invariant of every run, and it is stated here, with what follows from it at once and with how the
operations that everything else is made of keep it.

## Main results

* `Working.watching`, `Working.unused`: the attempt of a session in use watches over it, and
  while an attempt is under way no session is in use.
* `Working.wanted`: a client that somebody holds wants the attempt that there is.
* `Working.reconnectSoon`, `Working.started`, `Working.failed`, `Working.phased`,
  `Working.installs`: what retries, starts and ends attempts, moves them on and installs their
  sessions keeps a client at work.  The moves of a client are made of these.
-/

namespace LanguageBridge.Client.System

variable {s t : System}

/-! ## Being at work -/

/-- A client at work. -/
structure Working (s : System) : Prop extends Tidy s where
  lasting : s.state.destroyed = false
  /-- What runs for the client belongs to the newest generation. -/
  newest : ∀ a ∈ s.attempts, a.generation = s.state.generation
  /-- The session in use is the one installed in the newest generation; an attempt watches it, and
  its health is checked. -/
  current : ∀ c, s.state.current = some c →
    (∃ a ∈ s.attempts, a.phase = .watching c) ∧
      s.state.installed = some ⟨c, s.state.generation⟩ ∧ s.state.checks.isSome
  installed : ∀ i, s.state.installed = some i → i.generation ≤ s.state.generation
  /-- An attempt that has installed its session is not under way any more. -/
  since : ∀ i, s.state.installed = some i → i.generation = s.state.generation →
    ∀ a ∈ s.attempts, ¬a.phase.Underway
  registered : s.registry.Covers s.state.handles
  /-- Somebody is in charge of the connection. -/
  recovery : s.state.endpoint.isSome →
    (∃ a ∈ s.attempts, a.phase.Underway) ∨ s.state.current.isSome ∨ s.state.retry.pending.isSome
  /-- Nothing is to be retried while an attempt is under way. -/
  alone : ∀ a ∈ s.attempts, a.phase.Underway → s.state.retry.pending = none

/-- A peer that moves a socket, in either direction, changes nothing else. -/
theorem peerState_eq (s : System) (c : Nat) (next : SocketState) :
    ∃ agenda connections, s.peerState c next = { s with agenda, connections } ∧
      connections.length = s.connections.length ∧
      ∀ d, (s.connection d).Moved (({ s with connections } : System).connection d) := by
  let moved := s.update c fun k => { k with link := k.link.setState next }
  have same : ∀ d, (s.connection d).Moved (moved.connection d) := by
    intro d
    rw [connection_update_eq]
    split
    · exact .setState _ next
    · exact .refl _
  unfold System.peerState
  simp only []
  split
  · have woken : Calm moved (moved.wakeAll (moved.watchers c)) := .wakeAll _ _
    refine ⟨(moved.wakeAll (moved.watchers c)).agenda, moved.connections, ?_,
      length_update s c _, same⟩
    refine woken.rest.trans ?_
    rw [connections_wakeAll]
    rfl
  · exact ⟨s.agenda, moved.connections, rfl, length_update s c _, same⟩

/-- A fresh client is at work. -/
theorem working_fresh (options : Options) : Working (.fresh options) where
  pauses := rfl
  series := rfl
  attempt := by simp [System.fresh]
  kept := by
    intro c usable
    cases usable
  coherent := fun c => Connection.coherent_called "" 0
  lasting := rfl
  newest := by simp [System.fresh]
  current := by simp [System.fresh, State.fresh]
  installed := by simp [System.fresh, State.fresh]
  since := by simp [System.fresh, State.fresh]
  registered := Editor.Registry.covers_empty
  recovery := by simp [System.fresh, State.fresh]
  alone := by simp [System.fresh]

namespace Working

/-- Of the connections of a working client it only matters which sessions can be used and which
texts are read. -/
theorem of_connections (working : Working s) {agenda : Agenda Job} {connections : List Connection}
    {sessions : Nat}
    (kept : ∀ c, (({ s with connections } : System).connection c).session.disposed = false →
      ∃ a ∈ s.attempts, a.phase.session? = some c)
    (coherent : ∀ c, (({ s with connections } : System).connection c).Coherent) :
    Working { s with agenda, connections, sessions } :=
  { working with kept := kept, coherent := coherent }

/-- Traffic keeps a client at work. -/
theorem talk (working : Working s) (talk : Talk s t) : Working t := by
  rw [talk.rest]
  refine working.of_connections ?_ ?_
  · intro c usable
    have before : (s.connection c).session.disposed = false := (talk.connection c).usable usable
    exact working.kept c before
  · intro c
    exact (talk.connection c).coherent (working.coherent c)

theorem calm (working : Working s) (calm : Calm s t) : Working t := working.talk calm.talk

theorem peerState (working : Working s) (c : Nat) (next : SocketState) :
    Working (s.peerState c next) := by
  obtain ⟨agenda, connections, moved, -, same⟩ := peerState_eq s c next
  rw [moved]
  refine working.of_connections ?_ ?_
  · intro d usable
    rw [(same d).session] at usable
    exact working.kept d usable
  · exact fun d => (same d).coherent (working.coherent d)

/-- The attempt that works for a session in use. -/
theorem watching (working : Working s) {c : Nat} (current : s.state.current = some c) :
    ∃ a, s.attempts = [a] ∧ a.phase = .watching c := by
  obtain ⟨⟨a, mem, phase⟩, -, -⟩ := working.current c current
  exact ⟨a, (working.attempt a mem).1, phase⟩

/-- While a session is in use, no attempt is under way. -/
theorem settled (working : Working s) {c : Nat} (current : s.state.current = some c) :
    ∀ a ∈ s.attempts, ¬a.phase.Underway := by
  obtain ⟨a, single, phase⟩ := working.watching current
  intro b mem underway
  rw [single, List.mem_singleton] at mem
  rw [mem, phase] at underway
  exact underway

/-- While an attempt is under way, no session is in use. -/
theorem idle (working : Working s) {a : Attempt} (mem : a ∈ s.attempts)
    (underway : a.phase.Underway) : s.state.current = none := by
  cases current : s.state.current with
  | none => rfl
  | some c => exact absurd underway (working.settled current a mem)

/-- Where every attempt is under way, no session is in use. -/
theorem unused (working : Working s) (underway : ∀ a ∈ s.attempts, a.phase.Underway) :
    s.state.current = none := by
  cases current : s.state.current with
  | none => rfl
  | some c =>
      obtain ⟨a, single, -⟩ := working.watching current
      have mem : a ∈ s.attempts := by simp [single]
      exact absurd (underway a mem) (working.settled current a mem)

/-- An attempt that is found is the only one and the newest. -/
theorem found (working : Working s) {generation : Nat} {a : Attempt}
    (found : s.attempts.find? (·.generation = generation) = some a) :
    s.attempts = [a] ∧ a.generation = generation ∧ s.state.generation = generation := by
  have mem := List.mem_of_find?_eq_some found
  have own : a.generation = generation := by simpa using List.find?_some found
  exact ⟨(working.attempt a mem).1, own, (working.newest a mem).symm.trans own⟩

/-- An attempt of a working client is wanted. -/
theorem wanted (working : Working s) (alive : s.alive = true) {a : Attempt}
    (mem : a ∈ s.attempts) : s.wanted a.generation = true := by
  rw [System.wanted, alive, working.lasting, ← working.newest a mem]
  simp

/-! ## What keeps a client at work

One lemma for each kind of change that operations make.  They are stated for changes of named
fields, as the equations of the operations have them. -/

/-- A client that reconnects soon, with the session in use dropped or not. -/
theorem reconnectSoon (working : Working s) (settled : ∀ a ∈ s.attempts, ¬a.phase.Underway)
    {current : Option Nat} (narrower : current = s.state.current ∨ current = none) :
    Working { s with state := { s.state with current } }.reconnectSoon := by
  have kept : ∀ c, current = some c → s.state.current = some c := by
    intro c some
    rcases narrower with same | none
    · exact same.symm.trans some
    · rw [none] at some
      cases some
  cases placed : s.state.endpoint with
  | none =>
      rw [System.reconnectSoon, if_pos (by simp [placed])]
      exact { working with
        current := fun c some => working.current c (kept c some)
        recovery := by
          intro some
          rw [show _ = none from placed] at some
          cases some }
  | some endpoint =>
      obtain ⟨agenda, armed⟩ := reconnectSoon_eq
        (s := { s with state := { s.state with current } }) working.pauses working.lasting placed
      rw [armed]
      exact { working with
        pauses := rfl
        current := fun c some => working.current c (kept c some)
        recovery := fun _ => Or.inr (Or.inr rfl)
        alone := fun a mem underway => absurd underway (settled a mem) }

/-- A client that has just begun to connect. -/
theorem started (working : Working s) (calm : Calm s t)
    (disposed : ∀ c, (t.connection c).session.disposed = true) (endpoint : String) {retry : Retry}
    (pending : retry.pending = none) :
    Working { t with
      pauses := [], series := []
      attempts := [⟨s.state.generation + 1, endpoint, .starting⟩]
      state := { s.state with
        generation := s.state.generation + 1, endpoint := some endpoint
        current := none, socket := none, checks := none
        retry, task := some (s.state.generation + 1) } } where
  pauses := by simp [pending]
  series := rfl
  attempt := by simp
  kept := by
    intro c usable
    cases (disposed c).symm.trans usable
  coherent := fun c => (calm.connection c).coherent (working.coherent c)
  lasting := working.lasting
  newest := by simp
  current := by simp
  installed := fun i own => Nat.le_succ_of_le (working.installed i own)
  since := by
    intro i own newest
    -- Nothing was installed in a generation that did not exist.
    have older := working.installed i own
    rw [newest] at older
    exact absurd older (Nat.not_succ_le_self _)
  registered := by
    rw [calm.rest]
    exact working.registered
  recovery := fun _ => Or.inl ⟨_, List.mem_singleton.2 rfl, trivial⟩
  alone := fun _ _ _ => pending

/-- A client whose newest attempt is over, and whose sessions are all. -/
theorem failed (working : Working s) {agenda : Agenda Job} {connections : List Connection}
    {sessions : Nat}
    (disposed : ∀ c, (({ s with connections } : System).connection c).session.disposed = true)
    (coherent : ∀ c, (({ s with connections } : System).connection c).Coherent) :
    Working { s with
      agenda, connections, sessions
      attempts := []
      pauses := [⟨s.state.retry.issued + 1,
        s.state.retry.backoff.delay s.state.retry.attempts, none⟩]
      series := []
      state := { s.state with
        current := none, socket := none, checks := none
        retry := s.state.retry.scheduleBackoff.2 } } :=
  { working with
    pauses := rfl
    series := rfl
    attempt := by simp
    kept := by
      intro c usable
      cases (disposed c).symm.trans usable
    coherent := coherent
    newest := by simp
    current := by simp
    since := by simp
    recovery := fun _ => Or.inr (Or.inr rfl)
    alone := by simp }

/-- A client whose attempt moves on and is still under way: then no other session than that of the
attempt can be used. -/
theorem phased (working : Working s) {a : Attempt} (single : s.attempts = [a])
    (before : a.phase.Underway) (phase : Phase) (after : phase.Underway) {agenda : Agenda Job}
    {connections : List Connection} {sessions : Nat}
    (kept : ∀ c, (({ s with connections } : System).connection c).session.disposed = false →
      phase.session? = some c)
    (coherent : ∀ c, (({ s with connections } : System).connection c).Coherent) :
    Working { s with agenda, connections, sessions, attempts := [{ a with phase }] } := by
  have mem : a ∈ s.attempts := by simp [single]
  have idle := working.idle mem before
  exact { working with
    attempt := by
      intro b own
      rw [List.mem_singleton.1 own]
      exact ⟨rfl, (working.attempt a mem).2⟩
    kept := fun c usable => ⟨_, List.mem_singleton.2 rfl, kept c usable⟩
    coherent := coherent
    newest := by
      intro b own
      rw [List.mem_singleton.1 own]
      exact working.newest a mem
    current := by
      intro c some
      cases idle.symm.trans some
    -- The attempt was under way before, so its generation has not installed anything.
    since := fun i own newest => absurd before (working.since i own newest a mem)
    recovery := fun _ => Or.inl ⟨_, List.mem_singleton.2 rfl, after⟩
    alone := fun _ _ _ => working.alone a mem before }

/-- A client whose attempt has done what it was made for. -/
theorem installs (working : Working s) {a : Attempt} (single : s.attempts = [a]) {c : Nat}
    (session : a.phase.session? = some c) {agenda : Agenda Job} :
    Working { s with
      agenda
      pauses := []
      series := [⟨s.seriesMade + 1, .fresh s.state.options.healthInterval⟩]
      seriesMade := s.seriesMade + 1
      providersMade := s.providersMade + 1
      registry := (s.registry.registerAll s.state.options.languageId
        (s.providersMade + 1)).2.disposeAll s.state.handles
      attempts := [{ a with phase := .watching c }]
      state := { s.state with
        current := some c, installed := some ⟨c, a.generation⟩
        retry := s.state.retry.cancel.reset, checks := some (s.seriesMade + 1)
        handles := (s.registry.registerAll s.state.options.languageId
          (s.providersMade + 1)).1 } } := by
  have mem : a ∈ s.attempts := by simp [single]
  have newest := working.newest a mem
  exact { working with
    pauses := rfl
    series := rfl
    attempt := by
      intro b own
      rw [List.mem_singleton.1 own]
      exact ⟨rfl, (working.attempt a mem).2⟩
    kept := by
      intro d usable
      obtain ⟨b, own, keeps⟩ := working.kept d usable
      rw [single, List.mem_singleton] at own
      rw [own, session] at keeps
      exact ⟨_, List.mem_singleton.2 rfl, keeps⟩
    newest := by
      intro b own
      rw [List.mem_singleton.1 own]
      exact newest
    current := by
      intro d some
      cases some
      refine ⟨⟨_, List.mem_singleton.2 rfl, rfl⟩, ?_, rfl⟩
      rw [← newest]
    installed := by
      rintro i ⟨⟩
      exact Nat.le_of_eq newest
    since := by
      intro i _ _ b own underway
      rw [List.mem_singleton.1 own] at underway
      exact underway
    registered := working.registered.registerAll _ _
    recovery := fun _ => Or.inr (Or.inl rfl)
    alone := fun _ _ _ => rfl }

end Working
end LanguageBridge.Client.System
