import LanguageBridge.Proofs.Client.Handshake
import LanguageBridge.Proofs.Client.Turns

/-!
# Nobody waits for ever

A request of the editor waits in one of two ways: it has its turn coming, or it has been sent and a
session owes it an answer.  In the second case something has to be left that brings its turn, and
that is either the answer or the timer that was armed with it.  `System.Live` says so of all
requests of a client, whatever happens.

## Main results

* `Live.act`, `Live.turn`, `Live.shown`: kept by every action, by every job that has its turn, and
  by every event that is shown to the host.
* `Live.owed`: a request that is not ready waits for an answer that its session still owes it, with
  its timer armed.
* `Live.ends`: when its time is up and it has its turn, it ends.

## The parts of the invariant

`Arranged` is what is known of the attempts, the sessions and the numbers of the requests, and it
makes no mention of the agenda.  `Live` adds that every request is looked after.  They are kept
apart because a request that runs is for a moment looked after by nobody: `Arranged` holds then as
well, and `Live` of the other requests (`Live.besides`).
-/

namespace LanguageBridge.Client.System

open Message (greeting handshakeDone)

variable {s : System} {r : Request}

/-- A request that is not there does nothing. -/
theorem runRequest_of_none {number : Nat}
    (none : s.requests.find? (·.number = number) = none) : s.runRequest number = s := by
  unfold runRequest
  simp only [none]

/-- What has to be known of a client if its requests are to be looked after. -/
structure Arranged (s : System) : Prop where
  conditioned : s.alive = true → Working s ∨ Quiet s
  aligned : Aligned s.attempts s
  numbered : Numbered s
  apart : s.Apart
  /-- A request waits only on a connection whose handshake has ended. -/
  spoken : ∀ r ∈ s.requests, ∀ c id, r.Waits c id →
    ∃ later, (s.connection c).said = greeting :: handshakeDone :: later

/-- A client whose requests are all looked after. -/
structure Live (s : System) : Prop extends Arranged s where
  attended : Attended s.requests s

namespace Arranged

/-- Whoever holds the client wants every attempt that there is. -/
theorem wanted (arranged : Arranged s) (alive : s.alive = true) :
    ∀ a ∈ s.attempts, s.wanted a.generation = true := by
  intro a mem
  rcases arranged.conditioned alive with working | quiet
  · exact working.wanted alive mem
  · rw [quiet.attempts] at mem
    cases mem

/-- While an attempt has still to install a session, the handshake on its connection has not
ended. -/
theorem unspoken (arranged : Arranged s) {a : Attempt} (mem : a ∈ s.attempts) {c : Nat}
    (prepares : a.phase.Prepares c) (later : List Message) :
    (s.connection c).said ≠ greeting :: handshakeDone :: later := by
  obtain ⟨own, underway⟩ := prepares
  intro said
  cases phase : a.phase with
  | starting =>
      rw [phase] at own
      cases own
  | opening d =>
      rw [phase] at own
      cases own
      cases said.symm.trans (arranged.aligned.silent a mem c phase)
  | handshaking d id due =>
      rw [phase] at own
      cases own
      cases said.symm.trans (arranged.aligned.greeted a mem c id due phase).2
  | watching d =>
      rw [phase] at underway
      exact underway

/-- No request waits on a connection whose handshake is not over. -/
theorem early (arranged : Arranged s) :
    ∀ a ∈ s.attempts, ∀ c, a.phase.Prepares c → Unwaited s.requests c := by
  intro a mem c prepares r there id waits
  obtain ⟨later, said⟩ := arranged.spoken r there c id waits
  exact arranged.unspoken mem prepares later said

/-- The session in use is past its handshake. -/
theorem free (arranged : Arranged s) {c : Nat} (current : s.state.current = some c) :
    ∀ a ∈ s.attempts, ¬a.phase.Prepares c := by
  intro a mem prepares
  obtain ⟨later, said⟩ := arranged.aligned.used c current
  exact arranged.unspoken mem prepares later said

/-- The agenda does not matter. -/
theorem agenda (arranged : Arranged s) (agenda : Agenda Job) : Arranged { s with agenda } where
  conditioned := fun alive => (arranged.conditioned alive).imp
    (fun working => working.calm (.agenda s agenda)) fun quiet => (quiet.calm (.agenda s agenda)).1
  aligned := arranged.aligned.same (Nat.le_refl _) (fun _ => id) rfl fun _ => rfl
  numbered := ⟨arranged.numbered.distinct, arranged.numbered.asked⟩
  apart := arranged.apart
  spoken := arranged.spoken

/-- A client that has done something is arranged if its requests are. -/
theorem act (arranged : Arranged s) {a : Action} (numbered : Numbered (s.act a))
    (apart : (s.act a).Apart)
    (waits : ∀ r ∈ (s.act a).requests, ∀ c id, r.Waits c id →
      (∃ q ∈ s.requests, q.Waits c id) ∨ s.state.current = some c) : Arranged (s.act a) := by
  have turn := turn_of_wanted arranged.aligned arranged.wanted a
  refine ⟨fun alive => ?conditioned, turn.aligned, numbered, apart, fun r mem c id there => ?spoken⟩
  case conditioned =>
    exact (act_keeps (P := fun _ => True) (fun _ _ _ => trivial) (fun _ _ _ => trivial)
      (fun _ _ _ => trivial) alive ⟨arranged.conditioned (alive_of_act alive), trivial⟩).1
  case spoken =>
    obtain ⟨later, before⟩ : ∃ later, (s.connection c).said = greeting :: handshakeDone :: later := by
      rcases waits r mem c id there with ⟨q, was, waited⟩ | current
      · exact arranged.spoken q was c id waited
      · exact arranged.aligned.used c current
    cases turn.speaks c with
    | still said => exact ⟨later, said.trans before⟩
    | greets none said => cases before.symm.trans none
    | introduces replied greeted said used => cases before.symm.trans greeted
    | serves used everyday said => exact ⟨_, said.trans (congrArg (· ++ _) before)⟩

/-- What a request that runs comes to. -/
theorem comes (arranged : Arranged s) (mem : r ∈ s.requests)
    (others : Attended (s.besides r.number) s) :
    Comes (s.besides r.number) s r (s.act (.run (.request r.number))) := by
  refine comes_runRequest others (arranged.numbered.find mem) fun c id waits q there waits' => ?_
  obtain ⟨before, other⟩ := mem_besides.1 there
  exact other (arranged.apart q before r mem c id waits' waits)

/-- A request that runs, while the others are looked after and it can still be told itself. -/
theorem run (arranged : Arranged s) {number : Nat} (others : Attended (s.besides number) s)
    (poised : ∀ r ∈ s.requests, s.Poised r) : Live (s.act (.run (.request number))) := by
  cases found : s.requests.find? (·.number = number) with
  | none =>
      have all : s.besides number = s.requests := by
        refine List.filter_eq_self.2 fun q mem => ?_
        simpa using List.find?_eq_none.1 found q mem
      rw [show s.act (.run (.request number)) = s from runRequest_of_none found]
      exact ⟨arranged, all ▸ others⟩
  | some r =>
      have mem := List.mem_of_find?_eq_some found
      obtain rfl : r.number = number := by simpa using List.find?_some found
      have comes := arranged.comes mem others
      obtain ⟨apart, waits⟩ := comes.apart arranged.apart
      exact ⟨arranged.act (arranged.numbered.ran (ran_runRequest s _)) apart waits,
        comes.attended mem arranged.numbered (poised r mem) others arranged.early
          fun c current => arranged.free current⟩

end Arranged

namespace Live

/-- A request that has been made, and has to start. -/
theorem ask (live : Live s) (origin : Origin) (feature : Editor.Feature) (target : Target)
    (text : String) (place : Editor.Position) :
    Live (s.act (.ask origin feature target text place)) := by
  have either {q : Request}
      (mem : q ∈ (s.act (.ask origin feature target text place)).requests) :
      q ∈ s.requests ∨ q.number = s.asked + 1 ∧ q.stage = .starting := by
    rcases List.mem_append.1 mem with before | new
    · exact .inl before
    · rw [List.mem_singleton.1 new]
      exact .inr ⟨rfl, rfl⟩
  have waited {q : Request} {c id : Nat}
      (mem : q ∈ (s.act (.ask origin feature target text place)).requests) (waits : q.Waits c id) :
      q ∈ s.requests := by
    refine (either mem).resolve_right fun new => ?_
    obtain ⟨due, lines, waiting⟩ := waits
    cases new.2.symm.trans waiting
  have before := live.attended.act (a := .ask origin feature target text place) fun _ => nofun
  refine ⟨live.toArranged.act (live.numbered.append rfl rfl rfl) ?_ ?_, fun q mem => mem,
    fun q mem => ?_, fun a there c prepares q mem id waits => ?_⟩
  · exact fun q mem p mem' c id waits waits' =>
      live.apart q (waited mem waits) p (waited mem' waits') c id waits waits'
  · exact fun q mem c id waits => .inl ⟨q, waited mem waits, waits⟩
  · rcases either mem with old | ⟨number, starting⟩
    · exact before.each q old
    · unfold Attends
      rw [starting, number]
      exact (s.agenda.mem_ready_wake _ _).2 (.inr rfl)
  · exact before.early a there c prepares q (waited mem waits) id waits

/-- Whatever happens beside requests. -/
theorem beside (live : Live s) {a : Action} (other : ∀ number, a ≠ .run (.request number))
    (unasked : ∀ origin feature target text place, a ≠ .ask origin feature target text place) :
    Live (s.act a) := by
  have same := s.asking_act other unasked
  have requests : (s.act a).requests = s.requests := congrArg Prod.fst same
  refine ⟨live.toArranged.act (live.numbered.of_fewer (.of_asking same)) ?_ ?_, ?_⟩
  · rw [Apart, requests]
    exact live.apart
  · rw [requests]
    exact fun q mem c id waits => .inl ⟨q, mem, waits⟩
  · rw [requests]
    exact live.attended.act other

/-- The requests beside one are looked after even if that one is not ready any more. -/
theorem besides (live : Live s) (number : Nat) {agenda : Agenda Job} (now : agenda.now = s.now)
    (timers : agenda.timers = s.agenda.timers)
    (ready : ∀ n, n ≠ number → .request n ∈ s.agenda.ready → .request n ∈ agenda.ready) :
    Attended (s.besides number) { s with agenda } := by
  refine ⟨fun q mem => (mem_besides.1 mem).1, fun q mem => ?_,
    fun a there c prepares q mem => live.early a there c prepares q (mem_besides.1 mem).1⟩
  obtain ⟨there, other⟩ := mem_besides.1 mem
  have attends := live.attended.each q there
  unfold Attends at attends ⊢
  split at attends
  · exact ready _ other attends
  · refine ⟨attends.1.mono (ready _ other), ?_⟩
    show ⟨_, _⟩ ∈ agenda.timers ∧ agenda.now < _ ∨ _ ≤ agenda.now ∧ _
    rw [now, timers]
    exact attends.2.imp_right (And.imp_right (ready _ other))

/-- A request that can still be told can be told when it has its turn. -/
theorem poised (live : Live s) (mem : r ∈ s.requests) {agenda : Agenda Job}
    (now : agenda.now = s.now) (timers : agenda.timers = s.agenda.timers) :
    Poised { s with agenda } r := by
  intro c id due lines waiting
  have attends := live.attended.each r mem
  unfold Attends at attends
  rw [waiting] at attends
  refine ⟨attends.1.mono fun _ => trivial, ?_⟩
  show ⟨_, _⟩ ∈ agenda.timers ∨ _ ≤ agenda.now
  rw [now, timers]
  exact attends.2.imp And.left And.left

/-- A request that runs, ready or not. -/
theorem run (live : Live s) (number : Nat) {agenda : Agenda Job} (now : agenda.now = s.now)
    (timers : agenda.timers = s.agenda.timers)
    (ready : ∀ n, n ≠ number → .request n ∈ s.agenda.ready → .request n ∈ agenda.ready) :
    Live ({ s with agenda }.act (.run (.request number))) :=
  (live.toArranged.agenda agenda).run (live.besides number now timers ready)
    fun _ mem => live.poised mem now timers

theorem act (live : Live s) (a : Action) : Live (s.act a) := by
  by_cases runs : ∃ number, a = .run (.request number)
  · obtain ⟨number, rfl⟩ := runs
    exact live.run number rfl rfl fun _ _ => id
  by_cases asks : ∃ origin feature target text place, a = .ask origin feature target text place
  · obtain ⟨origin, feature, target, text, place, rfl⟩ := asks
    exact live.ask origin feature target text place
  · exact live.beside (fun number own => runs ⟨number, own⟩)
      fun origin feature target text place own => asks ⟨origin, feature, target, text, place, own⟩

/-- The turn of another job passes requests by. -/
theorem taken (live : Live s) {j : Job} (other : ∀ number, j ≠ .request number) :
    Live (s.taken j) := by
  have spares : Spares s.agenda (s.taken j).agenda :=
    ⟨rfl, fun n => mem_taken fun same => other n same.symm, fun _ _ => id⟩
  exact ⟨live.toArranged.agenda _, live.attended.agenda spares⟩

/-- The requests beside one are looked after when that one has its turn. -/
theorem besides_taken (live : Live s) (number : Nat) :
    Attended (s.besides number) (s.taken (.request number)) :=
  live.besides number rfl rfl fun _ other => mem_taken fun same => other (Job.request.inj same)

/-- A job that has its turn. -/
theorem turn (live : Live s) (j : Job) : Live (s.turn j) := by
  by_cases asks : ∃ number, j = .request number
  · obtain ⟨number, rfl⟩ := asks
    exact live.run number rfl rfl fun n other => mem_taken fun same => other (Job.request.inj same)
  · exact (live.taken fun number own => asks ⟨number, own⟩).act (.run j)

/-- A client that has done nothing. -/
theorem fresh (options : Options) : Live (.fresh options) where
  conditioned := fun _ => .inl (working_fresh options)
  aligned := .fresh options
  numbered := ⟨List.nodup_nil, nofun⟩
  apart := nofun
  spoken := nofun
  attended := ⟨nofun, nofun, nofun⟩

/-- Events for the host concern nobody else. -/
theorem shown (live : Live s) (events : List Host.Event) : Live { s with events } := by
  refine ⟨⟨fun alive => ?_, ?_, ⟨live.numbered.distinct, live.numbered.asked⟩, live.apart,
    live.spoken⟩, live.attended.same rfl rfl (.refl _) fun _ => .inl⟩
  · have step : Step s { s with events } := .face rfl fun _ => alive
    rcases live.conditioned alive with working | quiet
    · exact working.step alive step
    · exact .inr (quiet.step step).1
  · exact live.aligned.same (Nat.le_refl _) (fun _ => id) rfl fun _ => rfl

/-- A request that is not ready waits for an answer that a usable session still owes it, and its
timer is armed. -/
theorem owed (live : Live s) (mem : r ∈ s.requests)
    (idle : .request r.number ∉ s.agenda.ready) :
    ∃ c id due lines, r.stage = .waiting c id due lines ∧
      (s.connection c).session.disposed = false ∧ id ∈ (s.connection c).session.pending ∧
      s.now < due ∧ ⟨due, .request r.number⟩ ∈ s.agenda.timers := by
  have attends := live.attended.each r mem
  unfold Attends at attends
  split at attends
  · exact absurd attends idle
  · rename_i c id due lines waiting
    obtain ⟨⟨-, told⟩, timed⟩ := attends
    have pending := told.resolve_right fun answered => idle answered.2
    obtain ⟨armed, early⟩ := timed.resolve_right fun up => idle up.2
    refine ⟨c, id, due, lines, waiting, ?_, pending, early, armed⟩
    -- Somebody waits, so the client is still there, and a session that is over owes nothing.
    have alive : s.alive = true := by
      rw [alive, Bool.or_eq_true]
      refine .inr (List.any_eq_true.2 ⟨r, mem, ?_⟩)
      rw [Request.connection?, waiting]
      rfl
    have coherent : (s.connection c).Coherent := by
      rcases live.conditioned alive with working | quiet
      · exact working.coherent c
      · exact quiet.coherent c
    refine Bool.eq_false_iff.2 fun disposed => ?_
    rw [coherent.drained disposed] at pending
    cases pending

/-- A request that waits is ready when its time is up. -/
theorem due (live : Live s) (mem : r ∈ s.requests) {c id due : Nat} {lines : UInt32}
    (waiting : r.stage = .waiting c id due lines) (up : due ≤ s.now) :
    .request r.number ∈ s.agenda.ready := by
  have attends := live.attended.each r mem
  unfold Attends at attends
  rw [waiting] at attends
  exact (attends.2.resolve_left fun armed => absurd up (Nat.not_le_of_lt armed.2)).2

/-- What a request that has its turn comes to. -/
theorem comes (live : Live s) (mem : r ∈ s.requests) :
    Comes (s.besides r.number) (s.taken (.request r.number)) r (s.turn (.request r.number)) :=
  (live.toArranged.agenda (s.taken (.request r.number)).agenda).comes mem
    (live.besides_taken r.number)

/-- A request that waits ends when it has its turn after its time is up. -/
theorem ends (live : Live s) (mem : r ∈ s.requests) {c id due : Nat} {lines : UInt32}
    (waiting : r.stage = .waiting c id due lines) (up : due ≤ s.now) :
    r.number ∉ (s.turn (.request r.number)).requests.map Request.number := by
  rw [(live.comes mem).ended waiting up]
  intro there
  obtain ⟨q, besides, own⟩ := List.mem_map.1 there
  exact (mem_besides.1 besides).2 own

end Live

end LanguageBridge.Client.System
