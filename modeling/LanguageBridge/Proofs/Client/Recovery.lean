import LanguageBridge.Proofs.Client.Rest
import Mathlib.Logic.ExistsUnique

/-!
# Never stuck, never recovering twice

Three mechanisms keep a client connected: the attempt that is connecting, the health checks of the
session that is in use, and the pause before a retry.  As long as a client has an endpoint and has
not been destroyed, exactly one of them is in charge.  If none were, the editor would be without its
server for good; if two were, the client would connect twice.

## Main results

* `exactly_one_in_charge`: in every run there is exactly one mechanism in charge, a pending retry is
  in charge as long as no socket has moved backwards, and a health check that is due on a session
  that is stale hands over to the retry.
* `Working.exists_inCharge`, `Working.inCharge_unique`: the two halves of the first part, for any
  client at work.

## Sockets that move back

A socket that does not carry frames any more is noticed by the health checks and hands the client
over to a retry.  A health check also asks for a reconnect while the socket in use is still
*connecting*, which it can only be after it has moved back; in runs in which no peer moves a socket
backwards a retry is therefore pending only while no session is in use (`Carrying`).
-/

namespace LanguageBridge.Client.System

variable {s t : System}

/-- What can be in charge of the connection of a client. -/
inductive Mechanism where
  | connecting
  | serving
  | retrying
  deriving DecidableEq, Repr

/-- Whether a mechanism is in charge. -/
def InCharge (s : System) : Mechanism → Prop
  -- The attempt of the newest generation has still to install its session.
  | .connecting => ∃ a ∈ s.attempts, a.generation = s.state.generation ∧ a.phase.Underway
  -- A session is in use, and its health checks are running.
  | .serving => ∃ c id, s.state.current = some c ∧ s.state.checks = some id ∧
      ∃ m ∈ s.series, m.id = id
  -- No session is in use, and the pause before the pending retry goes on.
  | .retrying => s.state.current = none ∧ ∃ token, s.state.retry.pending = some token ∧
      ∃ p ∈ s.pauses, p.token = token

namespace Working

/-! ## Who is in charge

That one mechanism is there follows from `Working` at once.  That there are not two is seen pair
by pair: while an attempt is under way no session is in use and no retry is pending, and the other
two differ in whether a session is in use. -/

/-- The checks that a client knows of are running. -/
theorem checking (working : Working s) {id : Nat} (checks : s.state.checks = some id) :
    ∃ m ∈ s.series, m.id = id := by
  have mem : id ∈ s.series.map Checks.id := by
    rw [working.series, checks]
    exact List.mem_singleton.2 rfl
  exact List.mem_map.1 mem

/-- The pause before the pending retry goes on. -/
theorem pausing (working : Working s) {token : Nat} (pending : s.state.retry.pending = some token) :
    ∃ p ∈ s.pauses, p.token = token := by
  have mem : token ∈ s.pauses.map Pause.token := by
    rw [working.pauses, pending]
    exact List.mem_singleton.2 rfl
  exact List.mem_map.1 mem

/-- A retry that is pending with no session in use is in charge. -/
theorem retrying (working : Working s) (unused : s.state.current = none)
    (pending : s.state.retry.pending.isSome) : InCharge s .retrying := by
  obtain ⟨token, pending⟩ := Option.isSome_iff_exists.1 pending
  exact ⟨unused, token, pending, working.pausing pending⟩

/-- A session in use is served by the health checks. -/
theorem serving (working : Working s) {c : Nat} (current : s.state.current = some c) :
    InCharge s .serving := by
  obtain ⟨-, -, checks⟩ := working.current c current
  obtain ⟨id, checks⟩ := Option.isSome_iff_exists.1 checks
  exact ⟨c, id, current, checks, working.checking checks⟩

/-- Somebody is in charge. -/
theorem exists_inCharge (working : Working s) (placed : s.state.endpoint.isSome) :
    ∃ m, InCharge s m := by
  cases current : s.state.current with
  | some c => exact ⟨.serving, working.serving current⟩
  | none =>
      rcases working.recovery placed with ⟨a, mem, underway⟩ | some | pending
      · exact ⟨.connecting, a, mem, working.newest a mem, underway⟩
      · rw [current] at some
        cases some
      · exact ⟨.retrying, working.retrying current pending⟩

/-- No two mechanisms are in charge at once. -/
theorem inCharge_unique (working : Working s) {m m' : Mechanism} (first : InCharge s m)
    (second : InCharge s m') : m = m' := by
  have connecting_serving : InCharge s .connecting → ¬InCharge s .serving := by
    rintro ⟨a, mem, -, underway⟩ ⟨c, -, current, -⟩
    exact working.settled current a mem underway
  have connecting_retrying : InCharge s .connecting → ¬InCharge s .retrying := by
    rintro ⟨a, mem, -, underway⟩ ⟨-, token, pending, -⟩
    cases (working.alone a mem underway).symm.trans pending
  have serving_retrying : InCharge s .serving → ¬InCharge s .retrying := by
    rintro ⟨c, -, current, -⟩ ⟨unused, -⟩
    cases current.symm.trans unused
  cases m <;> cases m'
  case connecting.connecting => rfl
  case connecting.serving => exact absurd second (connecting_serving first)
  case connecting.retrying => exact absurd second (connecting_retrying first)
  case serving.connecting => exact absurd first (connecting_serving second)
  case serving.serving => rfl
  case serving.retrying => exact absurd second (serving_retrying first)
  case retrying.connecting => exact absurd first (connecting_retrying second)
  case retrying.serving => exact absurd first (serving_retrying second)
  case retrying.retrying => rfl

/-! ## Health checks

A check that is due looks at the session in use.  If it is stale the session is dropped and a
retry armed, all in the one run of the check.  The series itself goes on, but with no session in
use it is not in charge any more. -/

/-- A stale session that is recovered from is not in use any more, and a retry is in charge. -/
theorem retrying_recover (working : Working s) {c : Nat} (current : s.state.current = some c)
    (placed : s.state.endpoint.isSome) : InCharge (s.recover c) .retrying := by
  obtain ⟨endpoint, placed⟩ := Option.isSome_iff_exists.1 placed
  obtain ⟨t, -, recovered⟩ := recover_eq working.pauses working.lasting placed current
  rw [recovered]
  exact ⟨rfl, _, rfl, _, List.mem_singleton.2 rfl, rfl⟩

/-- There are no health checks besides those that run. -/
theorem only_checks (working : Working s) {m : Checks} (mem : m ∈ s.series) : s.series = [m] := by
  have ids := working.series
  cases checks : s.state.checks with
  | none =>
      rw [checks, Option.toList_none, List.map_eq_nil_iff] at ids
      rw [ids] at mem
      cases mem
  | some id =>
      rw [checks, Option.toList_some] at ids
      obtain ⟨m', single, -⟩ := List.map_eq_singleton_iff.1 ids
      rw [single, List.mem_singleton] at mem
      rw [single, mem]

/-- A due health check that comes across a session that cannot be used. -/
theorem runChecks_stale (working : Working s) (alive : s.alive = true) {c : Nat}
    (current : s.state.current = some c) {e : Failure}
    (stale : (s.connection c).inspect = .error e) {m : Checks} (mem : m ∈ s.series)
    (begun : m.monitor.start.isSome) (due : m.monitor.nextDue ≤ s.now) :
    ∃ agenda, s.runChecks m.id =
      { (s.recover c).setMonitor m.id m.monitor.checked with agenda } := by
  have found : s.series.find? (·.id = m.id) = some m := by
    rw [working.only_checks mem]
    simp
  obtain ⟨start, begun⟩ := Option.isSome_iff_exists.1 begun
  have checked : s.checkHealth = s.recover c := by
    unfold checkHealth validSession
    simp only [current, stale]
  unfold runChecks
  simp only [found, begun]
  rw [if_neg (Nat.not_lt.2 due), if_neg (by simp [alive, working.lasting]), checked]
  exact ⟨_, rfl⟩

/-- A due health check that comes across a stale session hands the client over to a retry. -/
theorem retrying_runChecks (working : Working s) (alive : s.alive = true)
    (placed : s.state.endpoint.isSome) {c : Nat} (current : s.state.current = some c) {e : Failure}
    (stale : (s.connection c).inspect = .error e) {m : Checks} (mem : m ∈ s.series)
    (begun : m.monitor.start.isSome) (due : m.monitor.nextDue ≤ s.now) :
    InCharge (s.runChecks m.id) .retrying := by
  obtain ⟨agenda, checked⟩ := working.runChecks_stale alive current stale mem begun due
  rw [checked]
  exact working.retrying_recover current placed

end Working

/-- A session that is over, or whose socket is closing or closed, is stale. -/
theorem inspect_stale {k : Connection} (gone : k.session.disposed = true ∨
    k.link.state = .closing ∨ k.link.state = .closed) : ∃ e, k.inspect = .error e := by
  unfold Connection.inspect Session.inspect
  split
  · exact ⟨_, rfl⟩
  · rename_i usable
    rcases gone with disposed | closing | closed
    · exact absurd disposed usable
    · rw [closing]
      exact ⟨_, rfl⟩
    · rw [closed]
      exact ⟨_, rfl⟩

/-! ## Sockets that do not move back -/

/-- A session in use whose socket has carried frames, and no retry beside it. -/
def Carrying (s : System) : Prop :=
  ∀ c, s.state.current = some c →
    SocketState.opened.rank ≤ (s.connection c).link.state.rank ∧ s.state.retry.pending = none

namespace Carrying

/-- Where no session is in use there is nothing to carry. -/
theorem of_none (unused : s.state.current = none) : Carrying s := by
  intro c current
  cases unused.symm.trans current

theorem talk (carrying : Carrying s) (talk : Talk s t) : Carrying t := by
  intro c current
  rw [talk.state] at current
  obtain ⟨rank, pending⟩ := carrying c current
  refine ⟨Nat.le_trans rank (talk.connection c).rank, ?_⟩
  rw [talk.state]
  exact pending

/-- A retry that is pending means that no session is in use. -/
theorem unused (carrying : Carrying s) (pending : s.state.retry.pending.isSome) :
    s.state.current = none := by
  cases current : s.state.current with
  | none => rfl
  | some c =>
      rw [(carrying c current).2] at pending
      cases pending

/-- What a move of a working client keeps. -/
theorem move (carrying : Carrying s) (working : Working s) (move : Move s t)
    (after : Working t) : Carrying t := by
  cases move with
  | talk talk => exact carrying.talk talk
  | aside rest pauses series =>
      rw [rest]
      exact carrying
  | @soon u current calm settled dropped left =>
      refine of_none ((current_reconnectSoon _).trans ?_)
      rcases dropped with none | ⟨kept, connecting⟩
      · exact none
      · -- A session in use whose socket is connecting would have moved back.
        refine kept.trans (Option.eq_none_iff_forall_ne_some.2 fun c used => ?_)
        have rank := (carrying c used).1
        rw [connecting c used] at rank
        exact absurd rank (by decide)
  | start calm disposed endpoint pending shut issued => exact of_none rfl
  | lapse unplaced => exact fun c current => ⟨(carrying c current).1, rfl⟩
  | call single starting => exact of_none (after.unused (by simp [Phase.Underway]))
  | greet single opening rest length kept coherent others begun =>
      refine of_none (after.unused ?_)
      rw [rest]
      simp [Phase.Underway]
  | install talk single underway session opened =>
      rintro d ⟨⟩
      exact ⟨opened, rfl⟩
  | finish single length disposed coherent shut => exact of_none rfl
  | destroy => cases after.lasting.symm.trans working.destroy.destroyed

end Carrying

/-! ## Runs -/

/-- In runs in which no peer moves a socket backwards, a retry that is pending is in charge. -/
theorem Steady.carrying {options : Options} (run : Steady options s) (alive : s.alive = true)
    (lasting : s.state.destroyed = false) : Carrying s := by
  have invariant : Working s ∧ Carrying s ∨ Quiet s := by
    refine run.invariant (P := fun s => Working s ∧ Carrying s ∨ Quiet s) ?_ ?_ alive
    · exact Or.inl ⟨working_fresh options, .of_none rfl⟩
    · rintro s t before here (⟨working, carrying⟩ | quiet) step
      · rcases working.step before step with after | quiet
        · exact Or.inl ⟨after, carrying.move working (working.move before step) after⟩
        · exact Or.inr quiet
      · exact Or.inr (quiet.step step).1
  rcases invariant with ⟨-, carrying⟩ | quiet
  · exact carrying
  · cases lasting.symm.trans quiet.destroyed

/-- Between any two steps of any run exactly one mechanism is in charge of a client that somebody
holds, that has an endpoint and that has not been destroyed.  If no peer has moved a socket
backwards, a pending retry is the one.  And a due health check that finds the session in use
disposed of, or its socket closing or closed, puts a retry in charge. -/
theorem exactly_one_in_charge {options : Options} (run : Reachable options s)
    (alive : s.alive = true) (lasting : s.state.destroyed = false)
    (placed : s.state.endpoint.isSome) :
    (∃! m, InCharge s m) ∧
      (Steady options s → s.state.retry.pending.isSome → InCharge s .retrying) ∧
      ∀ c, s.state.current = some c →
        ((s.connection c).session.disposed = true ∨ (s.connection c).link.state = .closing ∨
          (s.connection c).link.state = .closed) →
        ∀ m ∈ s.series, m.monitor.start.isSome → m.monitor.nextDue ≤ s.now →
          InCharge (s.run (.checks m.id)) .retrying := by
  have working := run.working alive lasting
  refine ⟨?_, ?_, ?_⟩
  · -- Somebody is in charge whenever there is an endpoint; nobody else is in any case.
    obtain ⟨m, here⟩ := working.exists_inCharge placed
    exact ⟨m, here, fun m' there => working.inCharge_unique there here⟩
  · intro steady pending
    exact working.retrying ((steady.carrying alive lasting).unused pending) pending
  · intro c current gone m mem begun due
    obtain ⟨e, stale⟩ := inspect_stale gone
    exact working.retrying_runChecks alive placed current stale mem begun due

/-- A client whose server has begun to close the connection in use, five seconds after the first
health check was put off. -/
def closingDown : System := (System.fresh .standard).acts
  [.connect "one", .run (.attempt 1), .connectorOpened 1 .opened, .peerFeed 0 "\x7b\"id\":1\x7d",
    .run (.reader 0), .run (.attempt 1), .run (.checks 1), .peerState 0 .closing, .wait 5000]

theorem closingDown_in_charge :
    (∃! m, InCharge closingDown m) ∧ InCharge (closingDown.run (.checks 1)) .retrying := by
  have run : Reachable .standard closingDown := Reachable.fresh.acts _
  obtain ⟨one, -, tick⟩ := exactly_one_in_charge run
    (by decide +kernel) (by decide +kernel) (by decide +kernel)
  let m := Checks.mk 1 ⟨Duration.ofMillis 5000, some 0, 0⟩
  have begun : m ∈ closingDown.series := by decide +kernel
  have current : closingDown.state.current = some 0 := by decide +kernel
  have closing : (closingDown.connection 0).link.state = .closing := by decide +kernel
  exact ⟨one, tick 0 current (.inr (.inl closing)) m begun rfl (by decide +kernel)⟩

end LanguageBridge.Client.System
