/-!
# The agenda: ready tasks, timers and the clock

Tasks run one at a time, each until it has to wait.  A task that can go on is *ready*; ready tasks
run in the order in which they became so, and a task is ready at most once.  A timer makes its task
ready when the clock reaches its due time; of several timers due at the same millisecond the one
armed first comes first, and all of them are made ready before any task runs.  The clock stands
still while tasks run.

`Scheduled` says how to run one task of some system; `settle` runs ready tasks until none is left
and `advance` lets time pass.  Both take a bound on the number of steps, which only has to be large
enough: a system that never settles has no state to be observed.
-/

namespace LanguageBridge

/-- A timer of a task. -/
structure Timer (τ : Type) where
  due : Nat
  task : τ
  deriving DecidableEq, Repr

/-- The clock in milliseconds, the ready tasks and the timers. -/
structure Agenda (τ : Type) where
  now : Nat
  /-- The ready tasks, the next one first. -/
  ready : List τ
  /-- The timers in the order in which they were armed. -/
  timers : List (Timer τ)
  deriving DecidableEq, Repr

namespace Agenda

variable {τ : Type} [DecidableEq τ]

/-- An agenda at the start of time. -/
def empty : Agenda τ := ⟨0, [], []⟩

/-- A task made ready, if it is not so already. -/
def wake (a : Agenda τ) (t : τ) : Agenda τ :=
  if t ∈ a.ready then a else { a with ready := a.ready ++ [t] }

/-- A timer armed for a task. -/
def arm (a : Agenda τ) (t : τ) (due : Nat) : Agenda τ :=
  { a with timers := a.timers ++ [⟨due, t⟩] }

/-- The timers of a task removed. -/
def disarm (a : Agenda τ) (t : τ) : Agenda τ :=
  { a with timers := a.timers.filter (·.task ≠ t) }

/-- A task that will not run any more. -/
def forget (a : Agenda τ) (t : τ) : Agenda τ :=
  { a with ready := a.ready.filter (· ≠ t), timers := a.timers.filter (·.task ≠ t) }

/-- The earliest due time of the timers, if it is not after `limit`. -/
def nextDue? (a : Agenda τ) (limit : Nat) : Option Nat :=
  (((a.timers.map Timer.due).min?).filter fun due => due ≤ limit).map (max a.now)

/-- The clock moved to a time, and the tasks of all timers that are due by then made ready. -/
def reach (a : Agenda τ) (time : Nat) : Agenda τ :=
  let due := a.timers.filter (·.due ≤ time)
  due.foldl (fun a t => a.wake t.task)
    { a with now := time, timers := a.timers.filter fun t => time < t.due }

theorem mem_ready_wake (a : Agenda τ) (t u : τ) :
    u ∈ (a.wake t).ready ↔ u ∈ a.ready ∨ u = t := by
  unfold wake
  split
  · rename_i h
    constructor
    · exact Or.inl
    · rintro (ready | rfl)
      · exact ready
      · exact h
  · simp

theorem mem_ready_forget (a : Agenda τ) (t u : τ) :
    u ∈ (a.forget t).ready ↔ u ∈ a.ready ∧ u ≠ t := by
  simp [forget]

end Agenda

/-- A system with an agenda and a way to run one of its tasks until it has to wait. -/
class Scheduled (σ : Type) (τ : outParam Type) where
  agenda : σ → Agenda τ
  withAgenda : σ → Agenda τ → σ
  poll : τ → σ → σ

namespace Scheduled

variable {σ τ : Type} [DecidableEq τ] [Scheduled σ τ]

/-- The first ready task run, if there is one. -/
def step? (s : σ) : Option σ :=
  match (agenda s).ready with
  | [] => none
  | t :: rest => some (poll t (withAgenda s { agenda s with ready := rest }))

/-- Ready tasks run until none is left. -/
def settle : Nat → σ → σ
  | 0, s => s
  | fuel + 1, s =>
    match step? s with
    | none => s
    | some s => settle fuel s

/-- The number of steps after which a system counts as settled in any case. -/
def patience : Nat := 1000000

/-- Time passed up to `target`, stopping at each due timer and running what it makes ready. -/
def advance (target : Nat) : Nat → σ → σ
  | 0, s => s
  | fuel + 1, s =>
    match (agenda s).nextDue? target with
    | none => withAgenda s { agenda s with now := target }
    | some due => advance target fuel (settle patience (withAgenda s ((agenda s).reach due)))

end Scheduled
end LanguageBridge
