import LanguageBridge.Proofs.Client.Rest

/-!
# Destruction is final

A client that is destroyed may have left work behind in many places: attempts that have not asked
the connector yet, calls of the connector, handshakes, pauses before a retry, health checks,
requests that wait for an answer.  None of it can set the client going again, in whatever order it
comes to its end, and neither can anybody who still holds the client.

The client has to be held by somebody at the moment at which it is destroyed, for otherwise nobody
could destroy it.

## How the proof goes

A client that somebody holds is at work, or at rest already (`Reachable.working_or_quiet`).  Its
destruction puts it at rest and freezes what shows of it, and every action from then on leaves it so
(`Quiet.acts`).  What is left is to say what that means for somebody who looks at the client
(`Over`), and that the destruction itself neither calls the connector nor queues a frame
(`Working.frozen_destroy`).
-/

namespace LanguageBridge.Client.System

variable {s t : System}

/-- A client that is over for good, compared with the moment at which it was destroyed. -/
structure Over (s t : System) : Prop where
  /-- The connector has not been called again. -/
  connections : t.connections.length = s.connections.length
  pending : t.state.retry.pending = none
  pauses : t.pauses = []
  series : t.series = []
  current : t.state.current = none
  /-- No connection has been given another frame. -/
  frames : ∀ c, (t.connection c).link.frames = (s.connection c).link.frames
  endpoint : t.state.endpoint = s.state.endpoint
  generation : t.state.generation = s.state.generation
  counted : t.state.retry.attempts = s.state.retry.attempts
  /-- No provider of the client is registered. -/
  unregistered : ∀ slot, t.registry.provider? slot = none
  /-- New settings are refused. -/
  refused : ∀ settings, (t.updateSettings settings).1 = .error .destroyed
  /-- Another destruction does nothing. -/
  again : t.destroy = t

/-- A client that has come to rest is over. -/
theorem Quiet.over (quiet : Quiet t) (frozen : Frozen s t) : Over s t where
  connections := frozen.connections
  pending := quiet.pending
  pauses := quiet.pauses
  series := quiet.series
  current := quiet.current
  frames := frozen.frames
  endpoint := frozen.endpoint
  generation := frozen.generation
  counted := frozen.counted
  unregistered := by
    intro slot
    rw [Editor.Registry.provider?, quiet.vacant slot]
    rfl
  refused := by
    intro settings
    rw [updateSettings, if_pos quiet.destroyed]
  again := destroy_of_destroyed quiet.destroyed

/-- The destruction itself calls no connector, sends nothing, and leaves the endpoint and the count
of attempts alone. -/
theorem Working.frozen_destroy (working : Working s) :
    s.destroy.connections.length = s.connections.length ∧
      (∀ c, (s.destroy.connection c).link.frames = (s.connection c).link.frames) ∧
      s.destroy.state.endpoint = s.state.endpoint ∧
      s.destroy.state.retry.attempts = s.state.retry.attempts := by
  obtain ⟨t, ⟨calm, -, -⟩, destroyed⟩ := destroy_eq working.toTidy working.lasting
  rw [destroyed]
  exact ⟨calm.length, fun c => (calm.connection c).frames, rfl, rfl⟩

/-- Once a client has been destroyed it is over, at every moment of every run that follows, and the
destruction itself neither calls the connector nor sends anything. -/
theorem destroy_is_final {options : Options} (run : Reachable options s) (alive : s.alive = true)
    (actions : List Action) :
    Over s.destroy (s.destroy.acts actions) ∧
      s.destroy.connections.length = s.connections.length ∧
      (∀ c, (s.destroy.connection c).link.frames = (s.connection c).link.frames) ∧
      s.destroy.state.endpoint = s.state.endpoint ∧
      s.destroy.state.retry.attempts = s.state.retry.attempts := by
  rcases run.working_or_quiet alive with working | quiet
  · obtain ⟨quiet, frozen⟩ := working.destroy.acts actions
    exact ⟨quiet.over frozen, working.frozen_destroy⟩
  · rw [destroy_of_destroyed quiet.destroyed]
    obtain ⟨still, frozen⟩ := quiet.acts actions
    exact ⟨still.over frozen, rfl, fun _ => rfl, rfl, rfl⟩

/-- A client destroyed in the middle of a handshake, after which the attempt, its connector and the
owner go on as if nothing had happened. -/
theorem destroyed_midway :
    let s := (System.fresh .standard).acts
      [.connect "one", .run (.attempt 1), .connectorOpened 1 .opened]
    let actions : List Action :=
      [.run (.attempt 1), .connectorOpened 1 .opened, .connectorFailed 1, .connect "two",
        .run (.attempt 2), .wait 60000, .run (.pause 1), .destroy]
    Over s.destroy (s.destroy.acts actions) ∧
      s.destroy.connections.length = s.connections.length ∧
      (∀ c, (s.destroy.connection c).link.frames = (s.connection c).link.frames) ∧
      s.destroy.state.endpoint = s.state.endpoint ∧
      s.destroy.state.retry.attempts = s.state.retry.attempts :=
  destroy_is_final (Reachable.fresh.acts _) (by decide) _

end LanguageBridge.Client.System
