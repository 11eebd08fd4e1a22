import LanguageBridge.Proofs.Client.Rest

/-!
# To which generation a connection belongs

A connection is made by an attempt, and the generation of that attempt is the only one that ever
uses it: no attempt of another generation comes to work on it, no other generation installs its
session, and its socket is the one that the client holds only as long as that generation is the
newest.  Connections are numbered in the order in which the connector is called, so none is used
twice.

With this the guards of a client fall into place.  They compare generations in some places and
connections in others, and what belongs to an older generation fails either kind of comparison.

## Main results

* `Belongs.acts`: a connection that belongs to a generation belongs to it for ever.
* `Reachable.separate`: in every run, as long as somebody holds the client, each connection belongs
  to a generation.
* `Separate.belongs_of_attempt`, `Separate.belongs_of_installed`: what an attempt works on and what
  was installed last belong to the generation that made them.
-/

namespace LanguageBridge.Client.System

variable {s t : System} {c g : Nat}

/-- A connection that only attempts of one generation use. -/
structure Belongs (c g : Nat) (s : System) : Prop where
  within : c < s.connections.length
  passed : g ≤ s.state.generation
  attempts : ∀ a ∈ s.attempts, a.phase.connection? = some c → a.generation = g
  installed : ∀ i, s.state.installed = some i → i.connection = c → i.generation = g
  socket : s.state.socket = some c → s.state.generation = g

/-- Connections that each belong to a generation, and nothing that uses another connection. -/
structure Separate (s : System) : Prop where
  attempts : ∀ a ∈ s.attempts, ∀ c, a.phase.connection? = some c → c < s.connections.length
  installed : ∀ i, s.state.installed = some i → i.connection < s.connections.length
  belongs : ∀ c < s.connections.length, ∃ g, Belongs c g s

theorem separate_fresh (options : Options) : Separate (.fresh options) where
  attempts := by simp [System.fresh]
  installed := by simp [System.fresh, State.fresh]
  belongs := by simp [System.fresh]

namespace Belongs

/-- A system whose attempts use no connection that those of another did not use. -/
theorem of_subset (belongs : Belongs c g s) (length : s.connections.length ≤ t.connections.length)
    (attempts : ∀ a ∈ t.attempts, a.phase.connection? = some c →
      ∃ b ∈ s.attempts, b.phase.connection? = some c ∧ b.generation = a.generation)
    (installed : t.state.installed = s.state.installed)
    (generation : t.state.generation = s.state.generation)
    (socket : t.state.socket = some c → s.state.generation = g) : Belongs c g t where
  within := Nat.lt_of_lt_of_le belongs.within length
  passed := generation ▸ belongs.passed
  attempts := by
    intro a mem uses
    obtain ⟨b, mem', uses', same⟩ := attempts a mem uses
    exact same.symm.trans (belongs.attempts b mem' uses')
  installed := installed ▸ belongs.installed
  socket := by
    intro holds
    exact generation.trans (socket holds)

/-- What a move of a working client keeps. -/
theorem move (belongs : Belongs c g s) (working : Working s) (move : Move s t) : Belongs c g t := by
  have same {a : Attempt} (mem : a ∈ s.attempts) (uses : a.phase.connection? = some c) :
      ∃ b ∈ s.attempts, b.phase.connection? = some c ∧ b.generation = a.generation :=
    ⟨a, mem, uses, rfl⟩
  cases move with
  | talk talk =>
      refine belongs.of_subset (Nat.le_of_eq talk.length.symm) ?_ (by rw [talk.state])
        (by rw [talk.state]) (by rw [talk.state]; exact belongs.socket)
      rw [talk.attempts]
      exact fun a => same
  | aside rest pauses series =>
      rw [rest]
      exact belongs.of_subset (Nat.le_refl _) (fun a => same) rfl rfl belongs.socket
  | @soon u current calm settled dropped left =>
      obtain ⟨agenda, pauses, retry, armed⟩ :=
        reconnectSoon_form { u with state := { s.state with current } }
      rw [armed, calm.rest]
      exact belongs.of_subset (Nat.le_of_eq calm.length.symm) (fun a => same) rfl rfl belongs.socket
  | @start u calm disposed endpoint retry pending shut issued =>
      -- The client holds no socket, and the attempt of the new generation has no connection yet.
      exact {
        within := calm.length.symm ▸ belongs.within
        passed := Nat.le_succ_of_le belongs.passed
        attempts := by
          intro a mem uses
          rw [List.mem_singleton.1 mem] at uses
          cases uses
        installed := belongs.installed
        socket := by
          intro holds
          cases holds }
  | lapse unplaced => exact belongs.of_subset (Nat.le_refl _) (fun a => same) rfl rfl belongs.socket
  | @call a single starting =>
      refine belongs.of_subset (by simp) ?_ rfl rfl belongs.socket
      intro b mem uses
      rw [List.mem_singleton.1 mem] at uses
      cases uses
      -- The new connection is none of those that there were.
      exact absurd belongs.within (Nat.lt_irrefl _)
  | @greet t a d id due single opening rest length kept coherent others begun =>
      have mem : a ∈ s.attempts := by simp [single]
      have own : a.phase.connection? = some d := by rw [opening]; rfl
      refine belongs.of_subset (Nat.le_of_eq length.symm) ?_ (by rw [rest]) (by rw [rest]) ?_
      · rw [rest]
        intro b mem' uses
        rw [List.mem_singleton.1 mem'] at uses ⊢
        exact ⟨a, mem, own.trans uses, rfl⟩
      · rw [rest]
        intro holds
        -- The socket taken over is that of an attempt of the newest generation.
        have uses := own.trans holds
        exact (working.newest a mem).symm.trans (belongs.attempts a mem uses)
  | @install agenda connections a d talk single underway session opened =>
      have mem : a ∈ s.attempts := by simp [single]
      have own := Phase.connection_of_session session
      exact {
        within := talk.length.symm ▸ belongs.within
        passed := belongs.passed
        attempts := by
          intro b mem' uses
          rw [List.mem_singleton.1 mem'] at uses ⊢
          exact belongs.attempts a mem (own.trans uses)
        installed := by
          rintro i ⟨⟩ same
          exact belongs.attempts a mem (own.trans (congrArg some same))
        socket := belongs.socket }
  | finish single length disposed coherent shut =>
      exact {
        within := length.symm ▸ belongs.within
        passed := belongs.passed
        attempts := by simp
        installed := belongs.installed
        socket := by simp }
  | destroy =>
      obtain ⟨t, ⟨calm, -, -⟩, destroyed⟩ := destroy_eq working.toTidy working.lasting
      rw [destroyed]
      exact {
        within := calm.length.symm ▸ belongs.within
        passed := Nat.le_succ_of_le belongs.passed
        attempts := by simp
        installed := belongs.installed
        socket := by simp }

/-- What a client at rest keeps. -/
theorem rest (belongs : Belongs c g s) (quiet : Quiet t) (frozen : Frozen s t) : Belongs c g t where
  within := frozen.connections.symm ▸ belongs.within
  passed := frozen.generation.symm ▸ belongs.passed
  attempts := by simp [quiet.attempts]
  installed := frozen.installed.symm ▸ belongs.installed
  socket := by simp [quiet.socket]

theorem peerState (belongs : Belongs c g s) (d : Nat) (next : SocketState) :
    Belongs c g (s.peerState d next) := by
  obtain ⟨agenda, connections, moved, length, -⟩ := peerState_eq s d next
  rw [moved]
  exact belongs.of_subset (Nat.le_of_eq length.symm) (fun a mem uses => ⟨a, mem, uses, rfl⟩) rfl rfl
    belongs.socket

end Belongs

namespace Separate

/-- A system with the same connections, whose attempts use none that those of another did not
use. -/
theorem of_subset (separate : Separate s) (length : t.connections.length = s.connections.length)
    (attempts : ∀ a ∈ t.attempts, ∀ c, a.phase.connection? = some c →
      ∃ b ∈ s.attempts, b.phase.connection? = some c)
    (installed : t.state.installed = s.state.installed)
    (belongs : ∀ c < s.connections.length, ∃ g, Belongs c g t) : Separate t where
  attempts := by
    intro a mem c uses
    obtain ⟨b, mem', uses'⟩ := attempts a mem c uses
    exact length.symm ▸ separate.attempts b mem' c uses'
  installed := by
    rw [installed, length]
    exact separate.installed
  belongs := length.symm ▸ belongs

/-- A connection that has just been made belongs to the generation of its attempt. -/
theorem belongs_called (separate : Separate s) {a : Attempt}
    (newest : a.generation = s.state.generation) :
    Belongs s.connections.length a.generation { s with
      connections := s.connections ++ [.called a.endpoint s.now]
      attempts := [{ a with phase := .opening s.connections.length }] } where
  within := by simp
  passed := Nat.le_of_eq newest
  attempts := by
    intro b mem uses
    rw [List.mem_singleton.1 mem]
  installed := by
    intro i own same
    have old := separate.installed i own
    rw [same] at old
    exact absurd old (Nat.lt_irrefl _)
  socket := fun _ => newest.symm

/-- What a move of a working client keeps. -/
theorem move (separate : Separate s) (working : Working s) (move : Move s t) : Separate t := by
  have belongs : ∀ c < s.connections.length, ∃ g, Belongs c g t := by
    intro c within
    obtain ⟨g, belongs⟩ := separate.belongs c within
    exact ⟨g, belongs.move working move⟩
  have same : ∀ a ∈ s.attempts, ∀ c, a.phase.connection? = some c →
      ∃ b ∈ s.attempts, b.phase.connection? = some c := fun a mem c uses => ⟨a, mem, uses⟩
  cases move with
  | talk talk =>
      exact separate.of_subset talk.length (talk.attempts ▸ same) (by rw [talk.state]) belongs
  | aside rest pauses series =>
      rw [rest] at belongs ⊢
      exact separate.of_subset rfl same rfl belongs
  | @soon u current calm settled dropped left =>
      obtain ⟨agenda, pauses, retry, armed⟩ :=
        reconnectSoon_form { u with state := { s.state with current } }
      rw [armed] at belongs ⊢
      exact separate.of_subset calm.length (calm.attempts ▸ same) rfl belongs
  | start calm disposed endpoint pending shut issued =>
      -- The new attempt has no connection yet.
      refine separate.of_subset calm.length ?_ rfl belongs
      intro a mem c uses
      rw [List.mem_singleton.1 mem] at uses
      cases uses
  | lapse unplaced => exact separate.of_subset rfl same rfl belongs
  | @call a single starting =>
      have newest := working.newest a (by simp [single])
      have more : (s.connections ++ [Connection.called a.endpoint s.now]).length
          = s.connections.length + 1 := by simp
      refine ⟨?_, ?_, ?_⟩
      · intro b mem c uses
        rw [List.mem_singleton.1 mem] at uses
        cases uses
        exact more ▸ Nat.lt_succ_self _
      · intro i own
        exact more ▸ Nat.lt_succ_of_lt (separate.installed i own)
      · intro c within
        rcases Nat.lt_succ_iff_lt_or_eq.1 (more ▸ within) with before | rfl
        · exact belongs c before
        · exact ⟨a.generation, separate.belongs_called newest⟩
  | @greet t a d id due single opening rest length kept coherent others begun =>
      have own : a.phase.connection? = some d := by rw [opening]; rfl
      refine separate.of_subset length ?_ (by rw [rest]) belongs
      rw [rest]
      intro b mem c uses
      rw [List.mem_singleton.1 mem] at uses
      exact ⟨a, by simp [single], own.trans uses⟩
  | @install agenda connections a d talk single underway session opened =>
      have own := Phase.connection_of_session session
      have length : connections.length = s.connections.length := talk.length
      have within := separate.attempts a (by simp [single]) d own
      refine ⟨?_, ?_, length.symm ▸ belongs⟩
      · intro b mem c uses
        rw [List.mem_singleton.1 mem] at uses
        cases uses
        exact length.symm ▸ within
      · rintro i ⟨⟩
        exact length.symm ▸ within
  | finish single length disposed coherent shut =>
      exact separate.of_subset length (by simp) rfl belongs
  | destroy =>
      obtain ⟨t, ⟨calm, -, -⟩, destroyed⟩ := destroy_eq working.toTidy working.lasting
      rw [destroyed] at belongs ⊢
      exact separate.of_subset calm.length (by simp) rfl belongs

/-- What a client at rest keeps. -/
theorem rest (separate : Separate s) (quiet : Quiet t) (frozen : Frozen s t) : Separate t where
  attempts := by simp [quiet.attempts]
  installed := by
    rw [frozen.installed, frozen.connections]
    exact separate.installed
  belongs := by
    intro c within
    obtain ⟨g, belongs⟩ := separate.belongs c (frozen.connections ▸ within)
    exact ⟨g, belongs.rest quiet frozen⟩

theorem peerState (separate : Separate s) (c : Nat) (next : SocketState) :
    Separate (s.peerState c next) := by
  have belongs : ∀ d < s.connections.length, ∃ g, Belongs d g (s.peerState c next) := by
    intro d within
    obtain ⟨g, belongs⟩ := separate.belongs d within
    exact ⟨g, belongs.peerState c next⟩
  obtain ⟨agenda, connections, moved, length, -⟩ := peerState_eq s c next
  rw [moved] at belongs ⊢
  exact ⟨length.symm ▸ separate.attempts, length.symm ▸ separate.installed, length.symm ▸ belongs⟩

end Separate

/-! ## Runs

What the invariant says in every run, in the two forms in which it is used. -/

/-- In every run each connection belongs to a generation. -/
theorem Reachable.separate {options : Options} (run : Reachable options s)
    (alive : s.alive = true) : Separate s :=
  (run.keeps (separate_fresh options) (fun working move holds => holds.move working move)
    (fun quiet frozen holds => holds.rest quiet frozen) (fun c next holds => holds.peerState c next)
    alive).2

/-- A connection belongs to its generation for ever. -/
theorem Belongs.acts {options : Options} (belongs : Belongs c g s) (run : Reachable options s)
    {actions : List Action} (alive : (s.acts actions).alive = true) :
    Belongs c g (s.acts actions) :=
  (acts_keeps (fun working move holds => holds.move working move)
    (fun quiet frozen holds => holds.rest quiet frozen) (fun c next holds => holds.peerState c next)
    alive ⟨run.working_or_quiet (alive_of_acts alive), belongs⟩).2

/-- The connection of an attempt belongs to the generation of the attempt. -/
theorem Separate.belongs_of_attempt (separate : Separate s) {a : Attempt} (mem : a ∈ s.attempts)
    (uses : a.phase.connection? = some c) : Belongs c a.generation s := by
  obtain ⟨g, belongs⟩ := separate.belongs c (separate.attempts a mem c uses)
  have same := belongs.attempts a mem uses
  exact same ▸ belongs

/-- The connection of the session that was installed last belongs to the generation that has done
so. -/
theorem Separate.belongs_of_installed (separate : Separate s)
    (installed : s.state.installed = some ⟨c, g⟩) : Belongs c g s := by
  obtain ⟨g', belongs⟩ := separate.belongs c (separate.installed _ installed)
  have same : g = g' := belongs.installed _ installed rfl
  exact same ▸ belongs

end LanguageBridge.Client.System
