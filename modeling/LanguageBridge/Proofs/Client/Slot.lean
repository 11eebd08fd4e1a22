import LanguageBridge.Proofs.Client.Abandoned
import LanguageBridge.Proofs.Client.Generations

/-!
# The session in use and what goes with it

A client notes down in many places what becomes of its connection: the endpoint, the socket that it
holds, the session in use, the installation that was the last one, its health checks, the handles of
its providers and the count of failed attempts.  They are written by different operations at
different times.  While a session is in use all of them agree on it (`inUse_of_current`).

## How the proof goes

Two invariants lead there.

* `Held`: what the client has on account of its attempt, which is the socket, on a connection that
  was opened for the endpoint that the client reports.
* `Offered`: what it has on account of the session in use, which are the providers, and a count of
  failed attempts that has been set back.

Both are kept by every move of a client at work.  A client at rest has no session in use, so nothing
has to be known of it, and a client that nobody holds any more has lost its session as well: that is
why the theorem does not ask whether somebody holds the client.
-/

namespace LanguageBridge.Client.System

open Editor (Feature Handle Slot)

variable {s t : System} {c : Nat}

/-! ## What is held for an attempt

The socket is written when an attempt starts its session, and given up in many places.  `Held`
ties it to the attempt, so that giving up the one without the other would show. -/

/-- What a client at work holds on account of its attempt. -/
structure Held (s : System) : Prop where
  /-- The socket is that of the session that the attempt keeps. -/
  socket : s.state.socket = s.attempts.head?.bind (·.phase.session?)
  endpoint : ∀ a ∈ s.attempts, s.state.endpoint = some a.endpoint
  called : ∀ a ∈ s.attempts, ∀ c, a.phase.connection? = some c →
    (s.connection c).endpoint = a.endpoint
  begun : ∀ a ∈ s.attempts, ∀ c, a.phase.session? = some c →
    (s.connection c).wasOpened = true ∧ (s.connection c).number.isSome

namespace Held

theorem fresh (options : Options) : Held (.fresh options) where
  socket := rfl
  endpoint := by simp [System.fresh]
  called := by simp [System.fresh]
  begun := by simp [System.fresh]

/-- The socket that is held for the only attempt. -/
theorem socket_eq (held : Held s) {a : Attempt} (single : s.attempts = [a]) :
    s.state.socket = a.phase.session? := by
  rw [held.socket, single]
  rfl

/-- A client without an attempt holds nothing. -/
theorem of_nil (attempts : s.attempts = []) (socket : s.state.socket = none) : Held s where
  socket := by rw [socket, attempts]; rfl
  endpoint := by simp [attempts]
  called := by simp [attempts]
  begun := by simp [attempts]

/-- A system whose attempts, socket and endpoint are the same, and whose connections have gone
on. -/
theorem of_eq (held : Held s) (attempts : t.attempts = s.attempts)
    (socket : t.state.socket = s.state.socket) (endpoint : t.state.endpoint = s.state.endpoint)
    (same : ∀ c, t.connection c = { s.connection c with
      session := (t.connection c).session, link := (t.connection c).link }) : Held t where
  socket := by
    rw [socket, attempts]
    exact held.socket
  endpoint := by
    rw [endpoint, attempts]
    exact held.endpoint
  called := by
    intro a mem c uses
    rw [same]
    exact held.called a (attempts ▸ mem) c uses
  begun := by
    intro a mem c keeps
    rw [same]
    exact held.begun a (attempts ▸ mem) c keeps

theorem talk (held : Held s) (talk : Talk s t) : Held t :=
  held.of_eq talk.attempts (by rw [talk.state]) (by rw [talk.state])
    fun c => (talk.connection c).rest

theorem peerState (held : Held s) (c : Nat) (next : SocketState) : Held (s.peerState c next) := by
  obtain ⟨agenda, connections, moved, -, same⟩ := peerState_eq s c next
  rw [moved]
  exact held.of_eq rfl rfl rfl fun d => (same d).eq

/-- What a move of a working client keeps, unless it is its destruction. -/
theorem move (held : Held s) (separate : Separate s) (move : Move s t)
    (lasting : t.state.destroyed = false) (working : Working s) : Held t := by
  cases move with
  | talk talk => exact held.talk talk
  | aside rest pauses series =>
      rw [rest]
      exact held.of_eq rfl rfl rfl fun _ => rfl
  | @soon u current calm settled dropped left =>
      obtain ⟨agenda, pauses, retry, armed⟩ :=
        reconnectSoon_form { u with state := { s.state with current } }
      rw [armed]
      exact held.of_eq calm.attempts rfl rfl fun c => (calm.connection c).rest
  | start calm disposed endpoint pending shut issued =>
      -- The new attempt has no connection yet.
      exact {
        socket := rfl
        endpoint := by simp
        called := by simp [Phase.connection?]
        begun := by simp [Phase.session?] }
  | lapse unplaced => exact held.of_eq rfl rfl rfl fun _ => rfl
  | @call a single starting =>
      have mem : a ∈ s.attempts := by simp [single]
      exact {
        socket := by
          show s.state.socket = none
          rw [held.socket_eq single, starting]
          rfl
        endpoint := by
          intro b own
          rw [List.mem_singleton.1 own]
          exact held.endpoint a mem
        called := by
          intro b own c uses
          rw [List.mem_singleton.1 own] at uses ⊢
          cases uses
          show (({ s with
            connections := s.connections ++ [.called a.endpoint s.now] } : System).connection
              s.connections.length).endpoint = a.endpoint
          rw [connection_append, if_pos rfl]
          rfl
        begun := by
          intro b own c keeps
          rw [List.mem_singleton.1 own] at keeps
          cases keeps }
  | @greet t a c id due single opening rest length kept coherent others begun =>
      have mem : a ∈ s.attempts := by simp [single]
      have own : a.phase.connection? = some c := by rw [opening]; rfl
      obtain ⟨endpoint, wasOpened, number⟩ := begun (separate.attempts a mem c own)
      rw [rest]
      exact {
        socket := rfl
        endpoint := by
          intro b mem'
          rw [List.mem_singleton.1 mem']
          exact held.endpoint a mem
        called := by
          intro b mem' d uses
          rw [List.mem_singleton.1 mem'] at uses ⊢
          cases uses
          exact endpoint.trans (held.called a mem c own)
        begun := by
          intro b mem' d keeps
          rw [List.mem_singleton.1 mem'] at keeps
          cases keeps
          exact ⟨wasOpened, number⟩ }
  | @install agenda connections a c talk single underway session opened =>
      have mem : a ∈ s.attempts := by simp [single]
      have after : Held { s with connections } := held.talk talk
      exact {
        socket := (held.socket_eq single).trans session
        endpoint := by
          intro b own
          rw [List.mem_singleton.1 own]
          exact held.endpoint a mem
        called := by
          intro b own d uses
          rw [List.mem_singleton.1 own] at uses ⊢
          cases uses
          exact after.called a mem c (Phase.connection_of_session session)
        begun := by
          intro b own d keeps
          rw [List.mem_singleton.1 own] at keeps
          cases keeps
          exact after.begun a mem c session }
  | finish single length disposed coherent shut => exact of_nil rfl rfl
  | destroy => cases lasting.symm.trans working.destroy.destroyed

end Held

/-! ## What is offered with a session in use

The providers are registered when a session is installed and stay where they are when it is
dropped.  So `Offered` asks of handles in every state that they are those in place, and only while
a session is in use that there is one for each feature and that the count has been set back. -/

/-- What a client at work has on account of the session in use. -/
structure Offered (s : System) : Prop where
  ids : ∀ h ∈ s.state.handles, h.id ≤ s.registry.made
  placed : ∀ h ∈ s.state.handles, (s.registry.inPlace? h.slot).map (·.id) = some h.id
  complete : ∀ c, s.state.current = some c →
    s.state.handles.map Handle.slot = Feature.all.map (Slot.mk · s.state.options.languageId)
  counted : ∀ c, s.state.current = some c → s.state.retry.attempts = 0

namespace Offered

theorem fresh (options : Options) : Offered (.fresh options) where
  ids := by simp [System.fresh, State.fresh]
  placed := by simp [System.fresh, State.fresh]
  complete := by simp [System.fresh, State.fresh]
  counted := by simp [System.fresh, State.fresh]

/-- A system with the same providers, in which no other session has come into use. -/
theorem of_eq (offered : Offered s) (registry : t.registry = s.registry)
    (handles : t.state.handles = s.state.handles) (options : t.state.options = s.state.options)
    (used : ∀ c, t.state.current = some c → s.state.current = some c ∧
      t.state.retry.attempts = s.state.retry.attempts) : Offered t where
  ids := by
    rw [registry, handles]
    exact offered.ids
  placed := by
    rw [registry, handles]
    exact offered.placed
  complete := by
    intro c current
    rw [handles, options]
    exact offered.complete c (used c current).1
  counted := by
    intro c current
    obtain ⟨before, same⟩ := used c current
    exact same.trans (offered.counted c before)

/-- Where no session is in use, only the handles matter. -/
theorem of_unused (offered : Offered s) (registry : t.registry = s.registry)
    (handles : t.state.handles = s.state.handles) (options : t.state.options = s.state.options)
    (unused : t.state.current = none) : Offered t :=
  offered.of_eq registry handles options fun _ current => nomatch unused.symm.trans current

/-- What a move of a working client keeps, unless it is its destruction. -/
theorem move (offered : Offered s) (move : Move s t) (lasting : t.state.destroyed = false)
    (working : Working s) : Offered t := by
  cases move with
  | talk talk =>
      refine offered.of_eq (by rw [talk.rest]) (by rw [talk.state]) (by rw [talk.state]) ?_
      rw [talk.state]
      exact fun c current => ⟨current, rfl⟩
  | aside rest pauses series =>
      rw [rest]
      exact offered.of_eq rfl rfl rfl fun c current => ⟨current, rfl⟩
  | @soon u current calm settled dropped left =>
      have counted := attempts_reconnectSoon { u with state := { s.state with current } }
      obtain ⟨agenda, pauses, retry, armed⟩ :=
        reconnectSoon_form { u with state := { s.state with current } }
      rw [armed] at counted ⊢
      refine offered.of_eq (by rw [calm.rest]) rfl rfl fun c used => ⟨?_, counted⟩
      rcases dropped with none | ⟨kept, -⟩
      · cases none.symm.trans used
      · exact kept.symm.trans used
  | start calm disposed endpoint pending shut issued =>
      exact offered.of_unused (by rw [calm.rest]) rfl rfl rfl
  | lapse unplaced => exact offered.of_eq rfl rfl rfl fun c current => ⟨current, rfl⟩
  | call single starting => exact offered.of_eq rfl rfl rfl fun c current => ⟨current, rfl⟩
  | greet single opening rest length kept coherent others begun =>
      rw [rest]
      exact offered.of_eq rfl rfl rfl fun c current => ⟨current, rfl⟩
  | install talk single underway session opened =>
      -- The handles of the fresh providers are younger than all that are disposed of.
      obtain ⟨slots, fresh⟩ := Editor.Registry.fresh_registerAll offered.ids
        s.state.options.languageId (s.providersMade + 1)
      exact {
        ids := fun h mem => (fresh.ids h mem).2
        placed := fresh.placed
        complete := fun _ _ => slots
        counted := fun _ _ => rfl }
  | finish single length disposed coherent shut => exact offered.of_unused rfl rfl rfl rfl
  | destroy => cases lasting.symm.trans working.destroy.destroyed

theorem peerState (offered : Offered s) (c : Nat) (next : SocketState) :
    Offered (s.peerState c next) := by
  obtain ⟨agenda, connections, moved, -, -⟩ := peerState_eq s c next
  rw [moved]
  exact offered.of_eq rfl rfl rfl fun c current => ⟨current, rfl⟩

end Offered

/-! ## Runs -/

/-- A session in use is that of a client at work. -/
theorem Reachable.working_of_current {options : Options} (run : Reachable options s)
    (current : s.state.current = some c) : Working s := by
  rcases run.working_or_quiet (run.alive_of_current current) with working | quiet
  · exact working
  · cases quiet.current.symm.trans current

/-- At every moment of every run a client that somebody holds and that has not been destroyed holds
what its attempt needs, and has what goes with the session in use. -/
theorem Reachable.held {options : Options} (run : Reachable options s) (alive : s.alive = true)
    (lasting : s.state.destroyed = false) : Held s ∧ Offered s := by
  have invariant := run.keeps
    (P := fun s => Separate s ∧ (s.state.destroyed = false → Held s ∧ Offered s))
    ⟨separate_fresh options, fun _ => ⟨.fresh options, .fresh options⟩⟩ ?move ?rest ?moved alive
  · exact invariant.2.2 lasting
  case move =>
    rintro s t working move ⟨separate, holds⟩
    obtain ⟨held, offered⟩ := holds working.lasting
    refine ⟨separate.move working move, fun lasting => ⟨?_, ?_⟩⟩
    · exact held.move separate move lasting working
    · exact offered.move move lasting working
  case rest =>
    rintro s t quiet frozen ⟨separate, -⟩
    refine ⟨separate.rest quiet frozen, fun lasting => ?_⟩
    cases lasting.symm.trans quiet.destroyed
  case moved =>
    rintro s c next ⟨separate, holds⟩
    refine ⟨separate.peerState c next, fun lasting => ?_⟩
    have before : s.state.destroyed = false := by
      obtain ⟨agenda, connections, moved, -⟩ := peerState_eq s c next
      rwa [moved] at lasting
    exact ⟨(holds before).1.peerState c next, (holds before).2.peerState c next⟩

/-- Everything that a client has noted down, in agreement with the session of a connection being in
use. -/
structure InUse (s : System) (c : Nat) : Prop where
  lasting : s.state.destroyed = false
  /-- The session was installed last, and in the present generation. -/
  installed : s.state.installed = some ⟨c, s.state.generation⟩
  /-- The connector was asked for the connection for the endpoint that the client reports. -/
  endpoint : s.state.endpoint = some (s.connection c).endpoint
  /-- The connector has opened the connection, and a session was started on it. -/
  begun : (s.connection c).wasOpened = true ∧ (s.connection c).number.isSome
  socket : s.state.socket = some c
  /-- One series of health checks runs, and it is the one that the client can stop. -/
  checked : ∃ m, s.series = [m] ∧ s.state.checks = some m.id
  /-- There is a handle for the provider of every feature. -/
  complete : s.state.handles.map Handle.slot =
    Feature.all.map (Slot.mk · s.state.options.languageId)
  /-- The registrations of all handles are in place. -/
  placed : ∀ h ∈ s.state.handles, ∃ e, s.registry.inPlace? h.slot = some e ∧ e.id = h.id
  counted : s.state.retry.attempts = 0

/-- Whenever a session is in use, in any run, the client is not destroyed, the installation on
record is that of this session in the present generation, its connection was opened for the endpoint
that the client reports, the client holds its socket, its health is checked, providers for all
features are registered, and the count of failed attempts is zero. -/
theorem inUse_of_current {options : Options} (run : Reachable options s)
    (current : s.state.current = some c) : InUse s c := by
  have alive := run.alive_of_current current
  have working : Working s := by
    rcases run.working_or_quiet alive with working | quiet
    · exact working
    · cases quiet.current.symm.trans current
  obtain ⟨held, offered⟩ := run.held alive working.lasting
  obtain ⟨a, single, watching⟩ := working.watching current
  obtain ⟨-, installed, checks⟩ := working.current c current
  have mem : a ∈ s.attempts := by simp [single]
  have session : a.phase.session? = some c := by rw [watching]; rfl
  have called := held.called a mem c (Phase.connection_of_session session)
  obtain ⟨id, running⟩ := Option.isSome_iff_exists.1 checks
  have series : s.series.map Checks.id = [id] := by
    rw [working.series, running]
    rfl
  obtain ⟨m, one, own⟩ := List.map_eq_singleton_iff.1 series
  exact {
    lasting := working.lasting
    installed := installed
    endpoint := by
      rw [called]
      exact held.endpoint a mem
    begun := held.begun a mem c session
    socket := (held.socket_eq single).trans session
    checked := ⟨m, one, own ▸ running⟩
    complete := offered.complete c current
    placed := fun h mem => Option.map_eq_some_iff.1 (offered.placed h mem)
    counted := offered.counted c current }

/-- A client that has moved to another endpoint while connected, and is connected there. -/
def movedOver : System := (System.fresh .standard).acts
  [.connect "one", .run (.attempt 1), .connectorOpened 1 .opened, .peerFeed 0 "\x7b\"id\":1\x7d",
    .run (.reader 0), .run (.attempt 1), .setEndpoint "two", .run (.attempt 2),
    .connectorOpened 2 .opened, .peerFeed 1 "\x7b\"id\":1\x7d", .run (.reader 1),
    .run (.attempt 2)]

theorem movedOver_inUse : movedOver.state.current = some 1 ∧ InUse movedOver 1 := by
  have current : movedOver.state.current = some 1 := by decide +kernel
  exact ⟨current, inUse_of_current (Reachable.fresh.acts _ : Reachable .standard movedOver) current⟩

end LanguageBridge.Client.System
