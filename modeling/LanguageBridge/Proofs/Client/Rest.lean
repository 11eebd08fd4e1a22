import LanguageBridge.Proofs.Client.Move

/-!
# The client at rest

A client that has been destroyed is *at rest*: nothing runs for it any more, and nothing that is
left over can set it going.  Every step leaves it so, with everything that shows frozen.  Together
with what is known of a client at work this says in which condition a client is between any two
steps of a run.

## Main results

* `Working.destroy`: the end of a client at work puts it at rest.
* `Quiet.step`, `Quiet.acts`: a client at rest stays at rest, and nothing that shows of it changes.
* `Reachable.working_or_quiet`: between any two actions a client that somebody holds is at work or
  at rest.

## Invariants of runs

`Reachable.keeps` is how all invariants of runs are proved from here on: what holds of a fresh
client, is kept by the moves of a client at work and by every step of one at rest holds in every run
as long as somebody holds the client.
-/

namespace LanguageBridge.Client.System

variable {s t : System}

/-! ## Rest -/

/-- A client at rest. -/
structure Quiet (s : System) : Prop where
  destroyed : s.state.destroyed = true
  attempts : s.attempts = []
  pauses : s.pauses = []
  pending : s.state.retry.pending = none
  series : s.series = []
  checks : s.state.checks = none
  socket : s.state.socket = none
  current : s.state.current = none
  /-- Whatever was installed was so in an older generation. -/
  installed : ∀ i, s.state.installed = some i → i.generation < s.state.generation
  disposed : ∀ c, (s.connection c).session.disposed = true
  coherent : ∀ c, (s.connection c).Coherent
  vacant : ∀ slot, s.registry.inPlace? slot = none

/-- What shows of a client at rest, unchanged. -/
structure Frozen (s t : System) : Prop where
  connections : t.connections.length = s.connections.length
  frames : ∀ c, (t.connection c).link.frames = (s.connection c).link.frames
  endpoint : t.state.endpoint = s.state.endpoint
  installed : t.state.installed = s.state.installed
  generation : t.state.generation = s.state.generation
  counted : t.state.retry.attempts = s.state.retry.attempts

theorem Frozen.refl (s : System) : Frozen s s := ⟨rfl, fun _ => rfl, rfl, rfl, rfl, rfl⟩

theorem Frozen.trans {u : System} (first : Frozen s t) (second : Frozen t u) : Frozen s u where
  connections := second.connections.trans first.connections
  frames := fun c => (second.frames c).trans (first.frames c)
  endpoint := second.endpoint.trans first.endpoint
  installed := second.installed.trans first.installed
  generation := second.generation.trans first.generation
  counted := second.counted.trans first.counted

/-- A working client that is destroyed comes to rest. -/
theorem Working.destroy (working : Working s) : Quiet s.destroy := by
  obtain ⟨t, gone, destroyed⟩ := destroy_eq working.toTidy working.lasting
  rw [destroyed]
  exact {
    destroyed := rfl
    attempts := rfl
    pauses := rfl
    pending := rfl
    series := rfl
    checks := rfl
    socket := rfl
    current := rfl
    installed := fun i own => Nat.lt_succ_of_le (working.installed i own)
    disposed := gone.disposed
    coherent := fun c => (gone.calm.connection c).coherent (working.coherent c)
    vacant := working.registered.disposeAll }

/-- Every step of a living client leaves it at work or lays it to rest. -/
theorem Working.step (working : Working s) (alive : s.alive = true) (step : Step s t) :
    Working t ∨ Quiet t := by
  rcases (working.move alive step).working working with after | destroyed
  · exact Or.inl after
  · rw [destroyed]
    exact Or.inr working.destroy

namespace Quiet

/-- Calm steps change nothing that shows of a client at rest. -/
theorem calm (quiet : Quiet s) (calm : Calm s t) : Quiet t ∧ Frozen s t := by
  refine ⟨?_, calm.length, fun c => (calm.connection c).frames, ?_, ?_, ?_, ?_⟩
  · rw [calm.rest]
    exact { quiet with
      disposed := fun c => (calm.connection c).disposed (quiet.disposed c)
      coherent := fun c => (calm.connection c).coherent (quiet.coherent c) }
  · rw [calm.state]
  · rw [calm.state]
  · rw [calm.state]
  · rw [calm.state]

/-- The peer may still move its sockets. -/
theorem peerState (quiet : Quiet s) (c : Nat) (next : SocketState) :
    Quiet (s.peerState c next) ∧ Frozen s (s.peerState c next) := by
  obtain ⟨agenda, connections, moved, length, same⟩ := peerState_eq s c next
  rw [moved]
  refine ⟨{ quiet with disposed := ?_, coherent := ?_ }, length, fun d => (same d).frames, rfl, rfl,
    rfl, rfl⟩
  · intro d
    rw [← quiet.disposed d, ← (same d).session]
    rfl
  · exact fun d => (same d).coherent (quiet.coherent d)

/-- Nobody reads on a connection of a client at rest. -/
theorem runReader (quiet : Quiet s) (c : Nat) : s.runReader c = s := by
  have silent := (quiet.coherent c).silent (quiet.disposed c)
  unfold System.runReader
  simp only [silent]
  rfl

theorem recover (quiet : Quiet s) (c : Nat) : s.recover c = s := by
  unfold System.recover
  rw [quiet.current]
  refine if_neg fun own => ?_
  exact absurd (quiet.installed _ own) (Nat.lt_irrefl _)

theorem find_attempt (quiet : Quiet s) (generation : Nat) :
    s.attempts.find? (·.generation = generation) = none := by
  rw [quiet.attempts]
  rfl

theorem call? (quiet : Quiet s) (generation : Nat) : s.call? generation = none := by
  rw [System.call?, quiet.find_attempt]

/-- There is no retry and there are no health checks left that could be stopped. -/
theorem stopped (quiet : Quiet s) :
    ∃ agenda, s.cancelRetry.stopChecks = { s with
      agenda, pauses := [], series := []
      state := { s.state with retry := s.state.retry.cancel, checks := none } } := by
  obtain ⟨agenda, cancelled⟩ := cancelRetry_eq (s := s) (by simp [quiet.pauses, quiet.pending])
  obtain ⟨agenda', silenced⟩ := stopChecks_eq (s := s.cancelRetry) (by
    rw [cancelled]
    simp [quiet.series, quiet.checks])
  refine ⟨agenda', ?_⟩
  rw [silenced, cancelled]

/-- Letting go of a client at rest changes nothing that shows. -/
theorem release (quiet : Quiet s) : Quiet s.release ∧ Frozen s s.release := by
  obtain ⟨agenda, stopped⟩ := quiet.stopped
  unfold System.release
  split
  · exact ⟨quiet, Frozen.refl s⟩
  · simp only [stopped, unregister]
    refine ⟨{ quiet with
      pauses := rfl
      pending := rfl
      series := rfl
      checks := rfl
      socket := rfl
      current := rfl
      vacant := Editor.Registry.disposeAll_of_none quiet.vacant _ }, rfl, fun _ => rfl, rfl, rfl,
      rfl, rfl⟩

/-- A step of a client at rest leaves every connection alone, or it is calm. -/
theorem connection (quiet : Quiet s) (step : Step s t) (c : Nat) :
    (s.connection c).Calm (t.connection c) := by
  have still (same : t = s) : (s.connection c).Calm (t.connection c) := same ▸ .refl _
  cases step with
  | calm calm => exact calm.connection c
  | read d => exact still (quiet.runReader d)
  | send d m link current sent => cases quiet.current.symm.trans current
  | call d method params answer session link current called =>
      cases quiet.current.symm.trans current
  | configure preamble snippets observer => exact .refl _
  | face rest kept =>
      rw [rest]
      exact .refl _
  | disown => exact .refl _
  | release =>
      obtain ⟨agenda, stopped⟩ := quiet.stopped
      unfold System.release
      split
      · exact .refl _
      · simp only [stopped]
        exact .refl _
  | recover d => exact still (quiet.recover d)
  | nudge d current usable shut => cases quiet.current.symm.trans current
  | connect endpoint => exact still (connect_of_destroyed endpoint quiet.destroyed)
  | setEndpoint endpoint => exact still (setEndpoint_of_destroyed endpoint quiet.destroyed)
  | destroy => exact still (destroy_of_destroyed quiet.destroyed)
  | check id monitor => exact .refl _
  | endChecks id finished => exact .refl _
  | pause token due => exact .refl _
  | endPause token =>
      rw [endPause_of_ne (by simp [quiet.pending])]
      exact .refl _
  | attempt generation =>
      exact still (by rw [System.runAttempt, quiet.find_attempt])
  | connectorFailed generation =>
      exact still (by rw [System.connectorFailed, quiet.call?])
  | connectorOpened generation state =>
      exact still (by rw [System.connectorOpened, quiet.call?])

/-- Every step leaves a client at rest as it is. -/
theorem step (quiet : Quiet s) (step : Step s t) : Quiet t ∧ Frozen s t := by
  cases step with
  | calm calm => exact quiet.calm calm
  | read c =>
      rw [quiet.runReader]
      exact ⟨quiet, Frozen.refl s⟩
  | send c m link current sent => cases quiet.current.symm.trans current
  | call c method params answer session link current called =>
      cases quiet.current.symm.trans current
  | configure preamble snippets observer =>
      exact ⟨{ quiet with }, rfl, fun _ => rfl, rfl, rfl, rfl, rfl⟩
  | face rest kept =>
      rw [rest]
      exact ⟨{ quiet with }, rfl, fun _ => rfl, rfl, rfl, rfl, rfl⟩
  | disown => exact ⟨{ quiet with }, rfl, fun _ => rfl, rfl, rfl, rfl, rfl⟩
  | release => exact quiet.release
  | recover c =>
      rw [quiet.recover]
      exact ⟨quiet, Frozen.refl s⟩
  | nudge c current usable shut => cases quiet.current.symm.trans current
  | connect endpoint =>
      rw [connect_of_destroyed endpoint quiet.destroyed]
      exact ⟨quiet, Frozen.refl s⟩
  | setEndpoint endpoint =>
      rw [setEndpoint_of_destroyed endpoint quiet.destroyed]
      exact ⟨quiet, Frozen.refl s⟩
  | destroy =>
      rw [destroy_of_destroyed quiet.destroyed]
      exact ⟨quiet, Frozen.refl s⟩
  | check id monitor =>
      -- There are no health checks and no pauses left that could move on.
      refine ⟨{ quiet with series := ?_ }, rfl, fun _ => rfl, rfl, rfl, rfl, rfl⟩
      rw [setMonitor, quiet.series]
      rfl
  | endChecks id finished =>
      refine ⟨{ quiet with series := ?_ }, rfl, fun _ => rfl, rfl, rfl, rfl, rfl⟩
      show s.series.filter _ = []
      rw [quiet.series]
      rfl
  | pause token due =>
      refine ⟨{ quiet with pauses := ?_ }, rfl, fun _ => rfl, rfl, rfl, rfl, rfl⟩
      rw [quiet.pauses]
      rfl
  | endPause token =>
      rw [endPause_of_ne (by simp [quiet.pending])]
      refine ⟨{ quiet with pauses := ?_ }, rfl, fun _ => rfl, rfl, rfl, rfl, rfl⟩
      rw [quiet.pauses]
      rfl
  | attempt generation =>
      rw [System.runAttempt, quiet.find_attempt]
      exact ⟨quiet, Frozen.refl s⟩
  | connectorFailed generation =>
      rw [System.connectorFailed, quiet.call?]
      exact ⟨quiet, Frozen.refl s⟩
  | connectorOpened generation state =>
      rw [System.connectorOpened, quiet.call?]
      exact ⟨quiet, Frozen.refl s⟩

theorem steps (quiet : Quiet s) (steps : Steps s t) : Quiet t ∧ Frozen s t := by
  induction steps with
  | refl => exact ⟨quiet, Frozen.refl s⟩
  | tail _ step ih =>
      obtain ⟨still, frozen⟩ := ih.1.step step
      exact ⟨still, ih.2.trans frozen⟩

/-- Whatever is done to a client at rest, it stays so. -/
theorem acts (quiet : Quiet s) (actions : List Action) :
    Quiet (s.acts actions) ∧ Frozen s (s.acts actions) := by
  induction actions generalizing s with
  | nil => exact ⟨quiet, Frozen.refl s⟩
  | cons a rest ih =>
      have done : Quiet (s.act a) ∧ Frozen s (s.act a) := by
        rcases act_cases s a with steps | ⟨c, next, moved⟩
        · exact quiet.steps steps
        · rw [moved]
          exact quiet.peerState c next
      obtain ⟨still, frozen⟩ := ih done.1
      exact ⟨still, done.2.trans frozen⟩

end Quiet

/-! ## Runs

Between two actions of a run a client is at work or at rest, and an invariant has to be kept in
both conditions.  A client that nobody holds is left out: what becomes of it is told elsewhere. -/

section Keeping

variable {P : System → Prop}

/-- What moves of a client at work, steps of a client at rest and moves of sockets keep, every
action keeps. -/
theorem act_keeps (move : ∀ {s t : System}, Working s → Move s t → P s → P t)
    (rest : ∀ {s t : System}, Quiet t → Frozen s t → P s → P t)
    (moved : ∀ {s : System} (c : Nat) (next : SocketState), P s → P (s.peerState c next))
    {a : Action} (here : (s.act a).alive = true) (holds : (Working s ∨ Quiet s) ∧ P s) :
    (Working (s.act a) ∨ Quiet (s.act a)) ∧ P (s.act a) := by
  refine act_keep (P := fun s => (Working s ∨ Quiet s) ∧ P s) ?_ ?_ here holds
  · rintro s t before - ⟨working | quiet, holds⟩ step
    · exact ⟨working.step before step, move working (working.move before step) holds⟩
    · obtain ⟨still, frozen⟩ := quiet.step step
      exact ⟨Or.inr still, rest still frozen holds⟩
  · rintro s c next ⟨working | quiet, holds⟩
    · exact ⟨Or.inl (working.peerState c next), moved c next holds⟩
    · exact ⟨Or.inr (quiet.peerState c next).1, moved c next holds⟩

/-- Nobody takes up a client again that has been let go. -/
theorem alive_of_acts {actions : List Action} (alive : (s.acts actions).alive = true) :
    s.alive = true := by
  induction actions generalizing s with
  | nil => exact alive
  | cons a rest ih => exact alive_of_act (ih alive)

/-- So does every list of actions. -/
theorem acts_keeps (move : ∀ {s t : System}, Working s → Move s t → P s → P t)
    (rest : ∀ {s t : System}, Quiet t → Frozen s t → P s → P t)
    (moved : ∀ {s : System} (c : Nat) (next : SocketState), P s → P (s.peerState c next))
    {actions : List Action} (here : (s.acts actions).alive = true)
    (holds : (Working s ∨ Quiet s) ∧ P s) :
    (Working (s.acts actions) ∨ Quiet (s.acts actions)) ∧ P (s.acts actions) := by
  induction actions generalizing s with
  | nil => exact holds
  | cons a rest' ih => exact ih here (act_keeps move rest moved (alive_of_acts here) holds)

/-- What a fresh client has besides, a client has at every moment of every run. -/
theorem Reachable.keeps {options : Options} (fresh : P (.fresh options))
    (move : ∀ {s t : System}, Working s → Move s t → P s → P t)
    (rest : ∀ {s t : System}, Quiet t → Frozen s t → P s → P t)
    (moved : ∀ {s : System} (c : Nat) (next : SocketState), P s → P (s.peerState c next))
    (run : Reachable options s) (here : s.alive = true) : (Working s ∨ Quiet s) ∧ P s := by
  induction run with
  | fresh => exact ⟨Or.inl (working_fresh options), fresh⟩
  | act a _ ih => exact act_keeps move rest moved here (ih (alive_of_act here))

end Keeping

/-- At every moment of every run a client that somebody holds is at work or at rest. -/
theorem Reachable.working_or_quiet {options : Options} (run : Reachable options s)
    (alive : s.alive = true) : Working s ∨ Quiet s :=
  (run.keeps (P := fun _ => True) trivial (fun _ _ _ => trivial) (fun _ _ _ => trivial)
    (fun _ _ _ => trivial) alive).1

/-- A client that somebody holds and that has not been destroyed is at work. -/
theorem Reachable.working {options : Options} (run : Reachable options s) (alive : s.alive = true)
    (lasting : s.state.destroyed = false) : Working s := by
  rcases run.working_or_quiet alive with working | quiet
  · exact working
  · cases lasting.symm.trans quiet.destroyed

end LanguageBridge.Client.System
