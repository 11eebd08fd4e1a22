import LanguageBridge.Proofs.Client.Renewal
import LanguageBridge.Proofs.Client.Advertised
import LanguageBridge.Proofs.Client.Standing

/-!
# Two clients in lockstep

What is done to a client with a past is seen, without the past, as something that is done to the
client without one (`Base.action?`).  Both stay the same apart from the past (`Renews.act`), and
what concerns only the past changes nothing else (`Renews.actPast`).

## Main results

* `Renews.act`: an action with a name in common is done to both, each under its own name, and the
  two renew each other as before, with the same output so far.
* `Renews.actPast`: an action that has no name in common, because its generation, token, series or
  connection belongs to the past, is done to the one client alone.  It may add to the output of that
  client, since a request of the past still gets its answer, so the outputs are compared anew from
  there.

Together they are the two cases of the step from which a whole run follows by induction on its
actions.

## What the two cases rest on

Most operations of a client need nothing but `Renews`.  Requests need more, and for these the
clients are taken to be reachable: whether a request finds a provider is a matter of registries,
which `Renews` leaves out, and in a reachable state it can be told from the session in use
(`findsProvider_of_current`).

The lemmas about the past go the other way.  They look for what the action would run, and find
nothing (`find_attempt_past`, `runPause_past`, `runChecks_past`), or a reader whose link is not
listened to (`runReader_past`), or a request that waits on a connection that is over
(`runRequest_past`).
-/

namespace LanguageBridge.Client.System

variable {b : Base} {p q : Output} {s f : System} {c : Nat}

/-! ## Who is asked

A request that starts looks for a provider of its language and then for the session in use.  The
two registries may hold different providers of other languages, but while a session is in use
those for the language of the client are there on both sides; without one, the answer is the same
whoever is asked. -/

/-- While a session is in use, providers are registered for the language of the client and for no
other. -/
theorem findsProvider_of_current {options : Options} (run : Reachable options s)
    (current : s.state.current = some c) (r : Request) :
    s.findsProvider r = true ↔ r.target = .held ∨ r.target = .registered options.languageId := by
  have inUse := inUse_of_current run current
  have complete := inUse.complete
  rw [run.terms.1] at complete
  unfold findsProvider
  cases r.target with
  | held => simp
  | registered language =>
      simp only [Editor.Registry.provider?, Option.isSome_map, reduceCtorEq, Target.registered.injEq,
        false_or]
      constructor
      · -- A registration in place has a handle, and all handles are for the one language.
        intro found
        obtain ⟨e, there⟩ := Option.isSome_iff_exists.1 found
        have mem := (run.working_of_current current).registered _ _ there
        have slot := List.mem_map_of_mem (f := Editor.Handle.slot) mem
        rw [complete, List.mem_map] at slot
        obtain ⟨feature, -, same⟩ := slot
        exact (congrArg Editor.Slot.language same).symm
      · -- Every feature has a handle, and its registration is in place.
        rintro rfl
        have slot : Editor.Slot.mk r.feature options.languageId
            ∈ s.state.handles.map Editor.Handle.slot := by
          rw [complete]
          exact List.mem_map_of_mem (by cases r.feature <;> decide)
        obtain ⟨h, mem, same⟩ := List.mem_map.1 slot
        obtain ⟨e, there, -⟩ := inUse.placed h mem
        rw [← same, there]
        rfl

/-- Without a session a request is told nothing, whichever providers there are. -/
theorem startRequest_of_none (none : s.state.current = none) (r : Request) :
    s.startRequest r = s.finishRequest r r.feature.nothing := by
  unfold System.startRequest System.validSession
  rw [none]
  split <;> rfl

namespace Renews

/-! ## Attempts

An attempt is followed from phase to phase.  Whether it is wanted is a question to the whole
client, and the answer is the same on both sides for three reasons at once: who holds the client,
whether it has been destroyed, and which generation is the newest. -/

/-- A common attempt comes to the next phase on both sides. -/
theorem setPhase (renews : Renews b p q s f) (generation : Nat) (phase : Phase) :
    Renews b p q (s.setPhase (b.generation + generation) (b.phase phase))
      (f.setPhase generation phase) :=
  { renews with
    attempts := by
      simp only [System.setPhase, renews.attempts, List.map_map]
      refine List.map_congr_left fun a _ => ?_
      simp only [Function.comp_apply, Base.attempt, Nat.add_left_cancel_iff]
      split <;> rfl
    attempted := fun a mem => by
      obtain ⟨old, known, rfl⟩ := List.mem_map.1 mem
      have positive := renews.attempted old known
      split <;> exact positive }

/-- Both want an attempt or neither does.  This is where being held, being destroyed and the
newest generation have to agree. -/
theorem wanted (renews : Renews b p q s f) (generation : Nat) :
    s.wanted (b.generation + generation) = f.wanted generation := by
  unfold System.wanted
  rw [renews.alive, renews.destroyed, renews.generation]
  simp only [Nat.add_left_cancel_iff]

/-- An attempt is over on both sides.  A retry is armed on both or on neither. -/
theorem finishAttempt (renews : Renews b p q s f) (generation : Nat) :
    Renews b p q (s.finishAttempt (b.generation + generation)) (f.finishAttempt generation) := by
  unfold System.finishAttempt
  rw [renews.alive]
  split
  · exact (renews.lost generation).endAttempt generation
  · exact renews.endAttempt generation

/-- Health checks start on both sides, with the same interval. -/
theorem startChecks (renews : Renews b p q s f) :
    Renews b p q s.startChecks f.startChecks := by
  have next : s.seriesMade + 1 = b.series + (f.seriesMade + 1) := congrArg (· + 1) renews.seriesMade
  have more : Renews b p q
      { s with
        seriesMade := s.seriesMade + 1
        state := { s.state with checks := some (s.seriesMade + 1) }
        series := s.series ++ [⟨s.seriesMade + 1, .fresh s.state.options.healthInterval⟩] }
      { f with
        seriesMade := f.seriesMade + 1
        state := { f.state with checks := some (f.seriesMade + 1) }
        series := f.series ++ [⟨f.seriesMade + 1, .fresh f.state.options.healthInterval⟩] } :=
    { renews with
      seriesMade := next
      checks := congrArg some next
      series := by simp [renews.series, renews.options, next, Base.checks, Base.monitor, Monitor.fresh]
      checked := fun m mem => by
        rcases List.mem_append.1 mem with old | new
        · exact renews.checked m old
        · rw [List.mem_singleton.1 new]
          exact Nat.succ_pos _ }
  exact more.wake _ _

/-- Providers do not matter. -/
theorem renewProviders (renews : Renews b p q s f) :
    Renews b p q s.renewProviders f.renewProviders := { renews with }

theorem install (renews : Renews b p q s f) (generation c : Nat) :
    Renews b p q (s.install (b.generation + generation) (b.connections + c))
      (f.install generation c) := by
  have reset := renews.cancelRetry.resetAttempts
  have installed : Renews b p q
      { s.cancelRetry.resetAttempts with state := { s.cancelRetry.resetAttempts.state with
        current := some (b.connections + c)
        installed := some ⟨b.connections + c, b.generation + generation⟩ } }
      { f.cancelRetry.resetAttempts with state := { f.cancelRetry.resetAttempts.state with
        current := some c, installed := some ⟨c, generation⟩ } } :=
    { reset with current := rfl, installed := .inl rfl }
  exact installed.stopChecks.startChecks.renewProviders.setPhase generation (.watching c)

/-! ## The handshake

A session that starts has sent nothing, on either side, so its first request has the same id and
its replies are matched in the same way.  From here on the two sessions are equal but for their
numbers. -/

/-- The handshake ends in the same way, as both sessions have sent the same so far. -/
theorem finishHandshake (renews : Renews b p q s f) (generation c : Nat) (outcome : Outcome) :
    Renews b p q (s.finishHandshake (b.generation + generation) (b.connections + c) outcome)
      (f.finishHandshake generation c outcome) := by
  have disarmed := renews.disarm (.attempt (b.generation + generation)) (.attempt generation)
  have told := disarmed.exchange c
  unfold System.finishHandshake
  simp only [disarmed.link, disarmed.session, (told _ _).wanted]
  split
  · split
    · exact (told _ _).install generation c
    · exact (((told _ _).dispose c).closeSocket c).endAttempt generation
  · exact (((told _ _).dispose c).closeSocket c).finishAttempt generation

/-- What comes of a greeting is the same on both sides, up to the due time of one that waits. -/
theorem greeted (renews : Renews b p q s f) (generation c : Nat) (call : Session.Call) :
    Renews b p q (s.greeted (b.generation + generation) (b.connections + c) (call.later b.now))
      (f.greeted generation c call) := by
  cases call with
  | «over» outcome => exact renews.finishHandshake generation c outcome
  | waiting id due => exact renews.setPhase generation (.handshaking c id due)

/-- What follows from the first request on a session. -/
theorem met (renews : Renews b p q s f) (generation c : Nat) (call : Session.Call) :
    Renews b p q
      (match call.later b.now with
        | .over outcome =>
          s.finishHandshake (b.generation + generation) (b.connections + c) outcome
        | .waiting id due =>
          (s.setPhase (b.generation + generation) (.handshaking (b.connections + c) id due)).arm
            (.attempt (b.generation + generation)) due)
      (match call with
        | .over outcome => f.finishHandshake generation c outcome
        | .waiting id due =>
          (f.setPhase generation (.handshaking c id due)).arm (.attempt generation) due) := by
  cases call with
  | «over» outcome => exact renews.finishHandshake generation c outcome
  | waiting id due => exact (renews.setPhase generation (.handshaking c id due)).arm _ _ _ _

/-- A session starts on both sides with the same greeting.  Its number differs by the sessions of
the past, and nothing that is sent depends on it. -/
theorem startSession (renews : Renews b p q s f) (generation c : Nat) :
    Renews b p q (s.startSession (b.generation + generation) (b.connections + c))
      (f.startSession generation c) := by
  have counted : Renews b p q { s with sessions := s.sessions + 1 }
      { f with sessions := f.sessions + 1 } :=
    { renews with sessions := congrArg (· + 1) renews.sessions }
  have started := (counted.update c
    (g := fun k => k.started (s.sessions + 1)
      (.fresh f.state.options.languageId f.state.options.requestTimeout))
    (h := fun k => k.started (f.sessions + 1)
      (.fresh f.state.options.languageId f.state.options.requestTimeout))
    fun k => by simp [Base.connection, Connection.started, renews.sessions, Nat.add_assoc]).wake
      (.reader (b.connections + c)) (.reader c)
  unfold System.startSession
  simp only [renews.options, started.link, started.session, Session.greet, started.now,
    Session.call_later]
  exact (started.exchange c _ _).met generation c _

/-! ## The connector

The connector is a part of the outside: it is asked, and at some time an action brings its answer.
Both sides ask for a connection of the same number, counted from the base, and so the same action
answers both. -/

/-- The connector is asked by both, at times that differ as the clocks do, and the new connection
gets the next place on either side. -/
theorem callConnector (renews : Renews b p q s f) (a : Attempt) :
    Renews b p q (s.callConnector (b.attempt a)) (f.callConnector a) := by
  have called : Renews b p q
      { s with connections := s.connections ++ [.called a.endpoint s.now] }
      { f with connections := f.connections ++ [.called a.endpoint f.now] } :=
    { renews with
      length := by simp [renews.length, Nat.add_assoc]
      connections := fun c => by
        -- The call is the last one of either.
        rcases Nat.lt_trichotomy c f.connections.length with old | rfl | beyond
        · rw [List.getElem?_append_left (by rw [renews.length]; omega),
            List.getElem?_append_left old, renews.connections]
        · rw [← renews.length, List.getElem?_concat_length, List.getElem?_concat_length, renews.now]
          rfl
        · rw [List.getElem?_eq_none, List.getElem?_eq_none]
          · rfl
          · simpa using Nat.succ_le_of_lt beyond
          · simpa [renews.length, Nat.add_assoc] using Nat.succ_le_of_lt beyond
      past := fun c before => by
        rw [show System.connection { s with connections := _ } c = s.connection c by
          unfold System.connection
          rw [List.getElem?_append_left (by rw [renews.length]; omega)]]
        exact renews.past c before }
  have phased := called.setPhase a.generation (.opening f.connections.length)
  unfold System.callConnector
  rw [renews.length]
  exact phased

/-- The call of the connector that an attempt waits for is common. -/
theorem call? (renews : Renews b p q s f) (generation : Nat) :
    s.call? (b.generation + generation) = (f.call? generation).map (b.connections + ·) := by
  unfold System.call?
  rw [renews.find_attempt]
  cases f.attempts.find? (·.generation = generation) with
  | none => rfl
  | some a =>
      obtain ⟨own, endpoint, phase⟩ := a
      cases phase <;> rfl

theorem connectorFailed (renews : Renews b p q s f) (generation : Nat) :
    Renews b p q (s.connectorFailed (b.generation + generation)) (f.connectorFailed generation) := by
  unfold System.connectorFailed
  rw [renews.call?]
  cases f.call? generation with
  | none => exact renews
  | some c => exact renews.finishAttempt generation

/-- The connector opens a connection for both, which is wanted by both or late for both. -/
theorem connectorOpened (renews : Renews b p q s f) (generation : Nat) (state : SocketState) :
    Renews b p q (s.connectorOpened (b.generation + generation) state)
      (f.connectorOpened generation state) := by
  unfold System.connectorOpened
  rw [renews.call?, renews.wanted]
  cases f.call? generation with
  | none => exact renews
  | some c =>
      have opened := renews.update c (g := fun k => k.opened state) (h := fun k => k.opened state)
        fun _ => rfl
      simp only [Option.map_some]
      split
      · have taken : Renews b p q
            { s.update (b.connections + c) (fun k => k.opened state) with
              state := { s.state with socket := some (b.connections + c) } }
            { f.update c (fun k => k.opened state) with
              state := { f.state with socket := some c } } := { opened with socket := rfl }
        exact taken.startSession generation c
      · exact ((opened.closeSocket c).update c
          (h := fun k => { k with link := k.link.stopListening }) fun _ => rfl).endAttempt generation

/-- An attempt runs on both sides, whatever phase it is in. -/
theorem runAttempt (renews : Renews b p q s f) (generation : Nat) :
    Renews b p q (s.runAttempt (b.generation + generation)) (f.runAttempt generation) := by
  unfold System.runAttempt
  rw [renews.find_attempt]
  cases f.attempts.find? (·.generation = generation) with
  | none => exact renews
  | some a =>
      simp only [Option.map_some]
      cases phase : a.phase with
      | starting => simpa [Base.attempt, Base.phase, phase] using renews.callConnector a
      | opening c => simpa [Base.attempt, Base.phase, phase] using renews
      | handshaking c id due =>
          simp only [Base.attempt, Base.phase, phase, renews.session, renews.now,
            Session.resume_later]
          exact (renews.update c (h := fun k => { k with session := _ }) fun _ => rfl).greeted
            generation c _
      | watching c =>
          simp only [Base.attempt, Base.phase, phase, renews.link]
          split
          · exact renews.finishAttempt generation
          · exact renews

/-! ## Requests

Requests are the one thing that a client brings along from the past: those that were made and had
not begun may be looked at on both sides.  Request `j` of one client is request `b.asked + j` of
the other, and only positive `j` are common. -/

/-- The requests changed; those of the past can only become fewer. -/
theorem withRequests (renews : Renews b p q s f) {u v : List Request}
    (common : u.filter (fun r => (b.number? r.number).isSome) = v.map b.request)
    (fewer : ∀ r ∈ u, b.number? r.number = none → r ∈ s.requests)
    (numbered : ∀ r ∈ v, 0 < r.number) :
    Renews b p q { s with requests := u } { f with requests := v } :=
  { renews with
    requests := common
    numbered
    left := fun r mem past => renews.left r (fewer r mem past) past }

/-- A request is made on both sides, with the next number of each. -/
theorem ask (renews : Renews b p q s f) (origin : Origin) (feature : Editor.Feature) (target : Target)
    (text : String) (place : Editor.Position) :
    Renews b p q (s.ask origin feature target text place) (f.ask origin feature target text place) := by
  have number : s.asked + 1 = b.number (f.asked + 1) := by
    rw [Base.number_next renews.idle, renews.asked]
  have known := renews.sound.number?_number (Nat.succ_pos f.asked)
  have counted : Renews b p q { s with asked := s.asked + 1 } { f with asked := f.asked + 1 } :=
    { renews with
      asked := by have idle := renews.idle; simp only [renews.asked]; omega
      idle := Nat.le_succ_of_le renews.idle }
  refine (counted.withRequests
    (u := s.requests ++ [⟨s.asked + 1, origin, feature, target, text, place, .starting⟩])
    (v := f.requests ++ [⟨f.asked + 1, origin, feature, target, text, place, .starting⟩])
    ?_ ?_ ?_).wake _ _
  · simp [renews.requests, number, known, Base.request, Base.stage]
  · intro r mem past
    rcases List.mem_append.1 mem with old | new
    · exact old
    · rw [List.mem_singleton.1 new, number, known] at past
      cases past
  · intro r mem
    rcases List.mem_append.1 mem with old | new
    · exact renews.numbered r old
    · rw [List.mem_singleton.1 new]
      exact Nat.succ_pos _

/-- A common request is found under its number. -/
theorem find_request (renews : Renews b p q s f) {j : Nat} (positive : 0 < j) :
    s.requests.find? (·.number = b.number j)
      = (f.requests.find? (·.number = j)).map b.request := by
  have known : s.requests.find? (·.number = b.number j)
      = (s.requests.filter fun r => (b.number? r.number).isSome).find? (·.number = b.number j) := by
    rw [List.find?_filter]
    congr 1
    funext r
    -- No request of the past goes by the number of a common one.
    by_cases own : r.number = b.number j
    · simp [own, renews.sound.number?_number positive]
    · simp [own]
  rw [known, renews.requests, List.find?_map, ← List.head?_filter, ← List.head?_filter]
  refine congrArg (fun rs => rs.head?.map b.request) (List.filter_congr fun r mem => ?_)
  simp [Base.request, renews.sound.number_inj (renews.numbered r mem) positive]

/-- A common request comes to the next stage on both sides; no request of the past goes by its
number. -/
theorem setStage (renews : Renews b p q s f) {j : Nat} (positive : 0 < j) (stage : Stage) :
    Renews b p q (s.setStage (b.number j) (b.stage stage)) (f.setStage j stage) := by
  refine renews.withRequests ?_ ?_ ?_
  · -- Requests are told apart by their numbers, and those stay.
    have numbers (r : Request) : (if r.number = b.number j then { r with stage := b.stage stage }
        else r).number = r.number := by split <;> rfl
    rw [List.filter_map]
    simp only [Function.comp_def, numbers, renews.requests, List.map_map]
    refine List.map_congr_left fun r mem => ?_
    simp only [Base.request, renews.sound.number_inj (renews.numbered r mem) positive]
    split <;> rfl
  · intro r mem past
    obtain ⟨old, there, rfl⟩ := List.mem_map.1 mem
    by_cases own : old.number = b.number j
    · rw [if_pos own] at past
      rw [own, renews.sound.number?_number positive] at past
      cases past
    · rwa [if_neg own]
  · intro r mem
    obtain ⟨old, there, rfl⟩ := List.mem_map.1 mem
    have numbered := renews.numbered old there
    split <;> exact numbered

/-! ### Answers

What comes out of a client is compared from the moment of the new endpoint on.  So both outputs
are kept as what there was before and what has been added, and it is the added part that is equal. -/

/-- What comes out of both comes out of both. -/
theorem extended {α : Type} {xs ys before before' : List α}
    (same : ∃ more, xs = before ++ more ∧ ys = before' ++ more) (zs : List α) :
    ∃ more, xs ++ zs = before ++ more ∧ ys ++ zs = before' ++ more := by
  obtain ⟨more, rfl, rfl⟩ := same
  exact ⟨more ++ zs, List.append_assoc _ _ _, List.append_assoc _ _ _⟩

/-- Signature help is shown to whoever observes, and on both sides that is the same. -/
theorem observe (renews : Renews b p q s f) (help : Editor.SignatureHelp) :
    Renews b p q (s.observe help) (f.observe help) := by
  unfold System.observe
  rw [renews.observer]
  split
  · exact renews
  · exact { renews with events := extended renews.events _ }
  · exact { renews with observed := extended renews.observed _ }

/-- An answer is given on both sides, so both outputs grow by the same. -/
theorem deliver (renews : Renews b p q s f) (origin : Origin) (answer : Editor.Answer) :
    Renews b p q (s.deliver origin answer) (f.deliver origin answer) := by
  unfold System.deliver
  split
  · exact { renews with answers := extended renews.answers _ }
  · exact { renews with events := extended renews.events _ }
  · exact { renews with events := extended renews.events _ }
  · exact renews

/-- A common request is over on both sides, and with it perhaps the last hold on the client. -/
theorem finishRequest (renews : Renews b p q s f) {r : Request} (positive : 0 < r.number)
    (answer : Editor.Answer) :
    Renews b p q (s.finishRequest (b.request r) answer) (f.finishRequest r answer) := by
  have dropped := renews.withRequests
    (u := s.requests.filter (·.number ≠ b.number r.number))
    (v := f.requests.filter (·.number ≠ r.number))
    (by
      -- It does not matter whether the request or those of the past are left out first.
      rw [List.filter_filter]
      refine (List.filter_congr fun _ _ => Bool.and_comm _ _).trans ?_
      rw [← List.filter_filter, renews.requests, List.filter_map]
      refine congrArg _ (List.filter_congr fun r' mem => ?_)
      simp [Base.request, renews.sound.number_inj (renews.numbered r' mem) positive])
    (fun r' mem _ => (List.mem_filter.1 mem).1)
    (fun r' mem => renews.numbered r' (List.mem_filter.1 mem).1)
  exact ((dropped.forget (.request (b.number r.number)) (.request r.number)).deliver r.origin
    answer).release

/-- The same reply leads to the same answer, as both have the same snippets. -/
theorem conclude (renews : Renews b p q s f) (r : Request) (c : Nat) (lines : UInt32)
    (outcome : Outcome) :
    (s.conclude (b.request r) (b.connections + c) lines outcome).1
        = (f.conclude r c lines outcome).1 ∧
      Renews b p q (s.conclude (b.request r) (b.connections + c) lines outcome).2
        (f.conclude r c lines outcome).2 := by
  unfold System.conclude
  cases outcome with
  | error e => exact ⟨rfl, renews.requestFailed c e⟩
  | ok reply =>
      simp only [renews.snippets, Base.request]
      split
      · exact ⟨rfl, renews.requestFailed c _⟩
      · exact ⟨rfl, renews.observe _⟩
      · exact ⟨rfl, renews⟩

/-- A common request is settled with the same outcome on both sides. -/
theorem settleRequest (renews : Renews b p q s f) {r : Request} (positive : 0 < r.number) (c : Nat)
    (lines : UInt32) (outcome : Outcome) :
    Renews b p q (s.settleRequest (b.request r) (b.connections + c) lines outcome)
      (f.settleRequest r c lines outcome) := by
  obtain ⟨same, concluded⟩ := renews.conclude r c lines outcome
  unfold System.settleRequest
  simp only [same]
  exact concluded.finishRequest positive _

/-! ### Sending

A request that is sent puts its text and itself on the queue of a common connection.  The text is
made with the preamble of this moment and the id with the count of the session; both are the same
on both sides. -/

/-- What follows from the request that is sent. -/
theorem sent (renews : Renews b p q s f) {r : Request} (positive : 0 < r.number) (c : Nat)
    (lines : UInt32) (call : Session.Call) :
    Renews b p q
      (match call.later b.now with
        | .over outcome => s.settleRequest (b.request r) (b.connections + c) lines outcome
        | .waiting id due =>
          (s.setStage (b.number r.number) (.waiting (b.connections + c) id due lines)).arm
            (.request (b.number r.number)) due)
      (match call with
        | .over outcome => f.settleRequest r c lines outcome
        | .waiting id due =>
          (f.setStage r.number (.waiting c id due lines)).arm (.request r.number) due) := by
  cases call with
  | «over» outcome => exact renews.settleRequest positive c lines outcome
  | waiting id due => exact (renews.setStage positive (.waiting c id due lines)).arm _ _ _ _

/-- The request for a feature is sent on both sides, under the same id, since the two sessions
have counted alike. -/
theorem sendRequest (renews : Renews b p q s f) {r : Request} (positive : 0 < r.number) (c : Nat)
    (lines : UInt32) :
    Renews b p q (s.sendRequest (b.request r) (b.connections + c) lines)
      (f.sendRequest r c lines) := by
  unfold System.sendRequest
  simp only [renews.options, renews.link, renews.session, renews.now, Session.call_later]
  exact (renews.exchange c _ _).sent positive c lines _

/-- The text is opened on both sides, with the same preamble in front of it. -/
theorem openDocument (renews : Renews b p q s f) {r : Request} (positive : 0 < r.number) (c : Nat) :
    Renews b p q (s.openDocument (b.request r) (b.connections + c)) (f.openDocument r c) := by
  obtain ⟨same, told⟩ := renews.notify c (.didOpen f.state.options.documentUri
    (f.connection c).session.languageId (Preamble.inFrontOf f.state.preamble r.text))
  unfold System.openDocument
  simp only [renews.options, renews.session, renews.preamble,
    show (b.request r).text = r.text from rfl]
  rcases left : s.notify (b.connections + c) _ with ⟨_ | _, t⟩ <;>
    rcases right : f.notify c _ with ⟨_ | _, u⟩ <;> rw [left, right] at same told
  · exact told.finishRequest positive _
  · cases same
  · cases same
  · exact told.sendRequest positive c _

/-- **A request that starts.**  It finds a provider on both sides or on neither, although the
registries are not compared. -/
theorem startRequest {options : Options} (renews : Renews b p q s f) (left : Reachable options s)
    (right : Reachable options f) {r : Request} (positive : 0 < r.number) :
    Renews b p q (s.startRequest (b.request r)) (f.startRequest r) := by
  cases current : f.state.current with
  | none =>
      rw [startRequest_of_none current, startRequest_of_none]
      · exact renews.finishRequest positive _
      · rw [renews.current, current]
        rfl
  | some c =>
      have same : s.findsProvider (b.request r) = f.findsProvider r := by
        rw [Bool.eq_iff_iff, findsProvider_of_current right current,
          findsProvider_of_current left (by rw [renews.current, current]; rfl)]
        exact Iff.rfl
      unfold System.startRequest
      rw [same, renews.alive, renews.destroyed]
      split
      · exact renews.finishRequest positive _
      · obtain ⟨t, u, checked, ⟨valid, valid'⟩ | ⟨d, valid, valid'⟩⟩ := renews.validSession
        · rw [valid, valid']
          exact checked.finishRequest positive _
        · simp only [valid, valid', checked.session, show (b.request r).feature = r.feature from rfl]
          split
          · exact checked.openDocument positive d
          · exact checked.finishRequest positive _

/-- What follows from looking again at a request that waits. -/
theorem resumed (renews : Renews b p q s f) {r : Request} (positive : 0 < r.number) (c : Nat)
    (lines : UInt32) (call : Session.Call) :
    Renews b p q
      (match call.later b.now with
        | .over outcome => s.settleRequest (b.request r) (b.connections + c) lines outcome
        | .waiting _ _ => s)
      (match call with
        | .over outcome => f.settleRequest r c lines outcome
        | .waiting _ _ => f) := by
  cases call with
  | «over» outcome => exact renews.settleRequest positive c lines outcome
  | waiting id due => exact renews

/-- **A request that runs.**  It starts, or it looks for its answer. -/
theorem runRequest {options : Options} (renews : Renews b p q s f) (left : Reachable options s)
    (right : Reachable options f) {j : Nat} (positive : 0 < j) :
    Renews b p q (s.runRequest (b.number j)) (f.runRequest j) := by
  unfold System.runRequest
  rw [renews.find_request positive]
  cases found : f.requests.find? (·.number = j) with
  | none => exact renews
  | some r =>
      have numbered := renews.numbered r (List.mem_of_find?_eq_some found)
      simp only [Option.map_some]
      cases stage : r.stage with
      | starting =>
          simp only [show (b.request r).stage = .starting from congrArg b.stage stage]
          exact renews.startRequest left right numbered
      | waiting c id due lines =>
          simp only [show (b.request r).stage = .waiting (b.connections + c) id (b.now + due) lines from
            congrArg b.stage stage, renews.session, renews.now, Session.resume_later]
          exact (renews.update c (h := fun k => { k with session := _ }) fun _ => rfl).resumed
            numbered c lines _

/-! ## Peers

What a peer does concerns one connection, and it does it on both sides. -/

theorem peerState (renews : Renews b p q s f) (c : Nat) (state : SocketState) :
    Renews b p q (s.peerState (b.connections + c) state) (f.peerState c state) := by
  have moved := renews.update c (g := fun k => { k with link := k.link.setState state })
    (h := fun k => { k with link := k.link.setState state }) fun _ => rfl
  unfold System.peerState
  simp only []
  split
  · exact moved.wakeAll _ _
  · exact moved

theorem peerFeed (renews : Renews b p q s f) (c : Nat) (text : String) :
    Renews b p q (s.peerFeed (b.connections + c) text) (f.peerFeed c text) := by
  unfold System.peerFeed
  rw [renews.link]
  split
  · exact (renews.update c (h := fun k => { k with link := k.link.feed text }) fun _ => rfl).wake _ _
  · exact renews

theorem peerEndFeed (renews : Renews b p q s f) (c : Nat) :
    Renews b p q (s.peerEndFeed (b.connections + c)) (f.peerEndFeed c) :=
  (renews.update c (h := fun k => { k with link := k.link.endFeed }) fun _ => rfl).wake _ _

theorem peerGone (renews : Renews b p q s f) (c : Nat) :
    Renews b p q (s.peerGone (b.connections + c)) (f.peerGone c) :=
  ((renews.peerState c .closed).update c (h := fun k => { k with link := k.link.dropPeer })
    fun _ => rfl).wake _ _

theorem peerTake (renews : Renews b p q s f) (c : Nat) :
    (s.peerTake (b.connections + c)).1 = (f.peerTake c).1 ∧
      Renews b p q (s.peerTake (b.connections + c)).2 (f.peerTake c).2 := by
  unfold System.peerTake
  rw [renews.link]
  exact ⟨rfl, renews.update c fun _ => rfl⟩

/-! ## What is done to both

All operations put together: a job that runs, and any action at all.  The run on the left has to
be reachable since only there it is known which providers there are. -/

/-- A common job runs on both sides, each under its own name. -/
theorem run {options : Options} (renews : Renews b p q s f) (left : Reachable options s)
    (right : Reachable options f) {j j' : Job} (common : b.job? j = some j') :
    Renews b p q (s.run j) (f.run j') := by
  cases j with
  | attempt generation =>
      obtain ⟨g, rfl, rfl⟩ := Base.of_counted? common
      exact renews.runAttempt g
  | reader c =>
      obtain ⟨d, rfl, rfl⟩ := Base.of_placed? common
      exact renews.runReader d
  | pause token =>
      obtain ⟨t, rfl, rfl⟩ := Base.of_counted? common
      exact renews.runPause t
  | checks id =>
      obtain ⟨i, rfl, rfl⟩ := Base.of_counted? common
      exact renews.runChecks i
  | request number =>
      obtain ⟨j, known, rfl⟩ := Option.map_eq_some_iff.1 common
      obtain ⟨positive, rfl⟩ := renews.sound.number?_eq_some.1 known
      exact renews.runRequest left right positive
  | peer c =>
      obtain ⟨d, -, rfl⟩ := Option.map_eq_some_iff.1 common
      exact renews
  | parcel number =>
      cases common
      exact renews

/-- Whatever is done to both keeps them the same apart from the past. -/
theorem act {options : Options} (renews : Renews b p q s f) (left : Reachable options s)
    (right : Reachable options f) {a a' : Action} (common : b.action? a = some a')
    (free : a = .disown → ∀ r ∈ s.requests, b.number? r.number = none → r.connection? = none) :
    Renews b p q (s.act a) (f.act a') := by
  cases a with
  | connect endpoint =>
      cases common
      exact renews.connect endpoint
  | setEndpoint endpoint =>
      cases common
      exact renews.setEndpoint endpoint
  | destroy =>
      cases common
      exact renews.destroy
  | checkConnected =>
      cases common
      exact renews.isConnected.2
  | updateSettings settings =>
      cases common
      exact (renews.updateSettings settings).2
  | setPreamble preamble =>
      cases common
      exact { renews with preamble := rfl }
  | setSnippets snippets =>
      cases common
      exact { renews with snippets := rfl }
  | setObserver observer =>
      cases common
      exact { renews with observer := rfl }
  | ask origin feature target text place =>
      cases common
      exact renews.ask origin feature target text place
  | disown =>
      cases common
      exact renews.disown (free rfl)
  | run j =>
      obtain ⟨j', known, rfl⟩ := Option.map_eq_some_iff.1 common
      exact renews.run left right known
  | wait ms =>
      cases common
      refine { renews with now := ?_ }
      refine (Agenda.now_reach _ _).trans (Eq.trans ?_ (congrArg _ (Agenda.now_reach _ _).symm))
      rw [renews.now, Nat.add_assoc]
  | connectorFailed generation =>
      obtain ⟨g, rfl, rfl⟩ := Base.of_counted? common
      exact renews.connectorFailed g
  | connectorOpened generation state =>
      obtain ⟨g, rfl, rfl⟩ := Base.of_counted? common
      exact renews.connectorOpened g state
  | peerState c state =>
      obtain ⟨d, rfl, rfl⟩ := Base.of_placed? common
      exact renews.peerState d state
  | peerFeed c text =>
      obtain ⟨d, rfl, rfl⟩ := Base.of_placed? common
      exact renews.peerFeed d text
  | peerEndFeed c =>
      obtain ⟨d, rfl, rfl⟩ := Base.of_placed? common
      exact renews.peerEndFeed d
  | peerGone c =>
      obtain ⟨d, rfl, rfl⟩ := Base.of_placed? common
      exact renews.peerGone d
  | peerTake c =>
      obtain ⟨d, rfl, rfl⟩ := Base.of_placed? common
      exact (renews.peerTake d).2

/-! ## What concerns the past

From here on an action is done to the left side alone, because what it is about exists only there:
a job under an old name, or a peer of an old connection.  In each case nobody is found under that
name any more, or what is found is over. -/

/-- What comes out of the past comes out of it alone; from then on both are looked at anew. -/
theorem restart (renews : Renews b p q s f) (answers : List (Nat × Editor.Answer))
    (events : List Host.Event) (observed : List Editor.SignatureHelp) :
    Renews b ⟨answers, events, observed⟩ f.output { s with answers, events, observed } f :=
  { renews with
    answers := ⟨[], (List.append_nil _).symm, (List.append_nil _).symm⟩
    events := ⟨[], (List.append_nil _).symm, (List.append_nil _).symm⟩
    observed := ⟨[], (List.append_nil _).symm, (List.append_nil _).symm⟩ }

theorem anew (renews : Renews b p q s f) : Renews b s.output f.output s f :=
  renews.restart s.answers s.events s.observed

/-- No attempt of the past is left. -/
theorem find_attempt_past (renews : Renews b p q s f) {generation : Nat}
    (past : generation ≤ b.generation) : s.attempts.find? (·.generation = generation) = none := by
  rw [List.find?_eq_none, renews.attempts]
  rintro _ mem own
  obtain ⟨a, there, rfl⟩ := List.mem_map.1 mem
  have positive := renews.attempted a there
  have same : (b.attempt _).generation = _ := of_decide_eq_true own
  simp only [Base.attempt] at same
  omega

/-- No attempt of the past waits for its connector. -/
theorem call?_past (renews : Renews b p q s f) {generation : Nat}
    (past : generation ≤ b.generation) : s.call? generation = none := by
  rw [System.call?, renews.find_attempt_past past]

theorem runPause_past (renews : Renews b p q s f) {token : Nat} (past : token ≤ b.token) :
    s.runPause token = s := by
  unfold System.runPause
  rw [List.find?_eq_none.2]
  rintro _ mem own
  rw [renews.pauses] at mem
  obtain ⟨pause, there, rfl⟩ := List.mem_map.1 mem
  have positive := renews.paused pause there
  have same : (b.pause _).token = _ := of_decide_eq_true own
  simp only [Base.pause] at same
  omega

theorem runChecks_past (renews : Renews b p q s f) {id : Nat} (past : id ≤ b.series) :
    s.runChecks id = s := by
  unfold System.runChecks
  rw [List.find?_eq_none.2]
  rintro _ mem own
  rw [renews.series] at mem
  obtain ⟨m, there, rfl⟩ := List.mem_map.1 mem
  have positive := renews.checked m there
  have same : (b.checks _).id = _ := of_decide_eq_true own
  simp only [Base.checks] at same
  omega

/-- A reader of the past finds that nobody listens. -/
theorem runReader_past (renews : Renews b p q s f) (past : c < b.connections) :
    s.runReader c = s := by
  unfold System.runReader
  simp only [(renews.past c past).2]
  rfl

/-! ### Requests of the past

Requests are the exception.  One that was in flight has its answer, and gives it when it has its
turn; that is output of the left side alone, and so the outputs are looked at anew from there
(`restart`). -/

/-- Signature help that a request of the past brings is shown on the one side only. -/
theorem observe_past (renews : Renews b p q s f) (help : Editor.SignatureHelp) :
    Renews b (s.observe help).output f.output (s.observe help) f := by
  unfold System.observe
  split <;> exact renews.restart _ _ _

theorem deliver_past (renews : Renews b p q s f) (origin : Origin) (answer : Editor.Answer) :
    Renews b (s.deliver origin answer).output f.output (s.deliver origin answer) f := by
  unfold System.deliver
  split <;> exact renews.restart _ _ _

/-- A request of the past that is over leaves its answer behind, if it was not all that held the
client. -/
theorem finishRequest_past (renews : Renews b p q s f) {r : Request}
    (past : b.number? r.number = none) {answer : Editor.Answer}
    (kept : (s.finishRequest r answer).alive = true) :
    Renews b (s.finishRequest r answer).output f.output (s.finishRequest r answer) f := by
  have dropped := renews.withRequests (u := s.requests.filter (·.number ≠ r.number))
    (by
      rw [List.filter_filter, ← renews.requests]
      refine List.filter_congr fun r' _ => ?_
      by_cases own : r'.number = r.number
      · simp [own, past]
      · simp [own])
    (fun r' mem _ => (List.mem_filter.1 mem).1) renews.numbered
  -- The client without a past stands still.
  have delivered := (dropped.agenda (e := f.agenda)
    (a := s.agenda.forget (.request r.number)) rfl rfl).deliver_past r.origin answer
  unfold System.finishRequest at kept ⊢
  rw [alive_of_front (front_release _)] at kept
  rw [System.release, if_pos kept]
  exact delivered

/-- A client that its owner holds outlives its requests. -/
theorem alive_of_owned (owned : s.owned = true) (r : Request) (answer : Editor.Answer) :
    (s.finishRequest r answer).alive = true := by
  unfold System.finishRequest
  rw [alive_of_front (front_release _), System.alive, Bool.or_eq_true]
  left
  unfold System.deliver
  split <;> exact owned

/-- The outcome of a request of the past is an answer and nothing else: its connection is over, so
there is nothing to recover. -/
theorem conclude_past (renews : Renews b p q s f) (r : Request) (past : c < b.connections)
    (lines : UInt32) (outcome : Outcome) :
    Renews b (s.conclude r c lines outcome).2.output f.output (s.conclude r c lines outcome).2 f ∧
      (s.conclude r c lines outcome).2.owned = s.owned := by
  unfold System.conclude
  split
  · rw [renews.requestFailedPast past]
    exact ⟨renews.anew, rfl⟩
  · split
    · rw [renews.requestFailedPast past]
      exact ⟨renews.anew, rfl⟩
    · refine ⟨renews.observe_past _, ?_⟩
      unfold System.observe
      split <;> rfl
    · exact ⟨renews.anew, rfl⟩

/-- A request of the past that begins after all gets its answer at once, as long as no session is in
use. -/
theorem runRequest_past (renews : Renews b p q s f) (numbered : Numbered s) {number : Nat}
    (past : b.number? number = none)
    (vain : ∀ r ∈ s.requests, r.number = number → r.stage = .starting →
      s.alive = true ∧ s.state.current = none) :
    Renews b (s.runRequest number).output f.output (s.runRequest number) f := by
  unfold System.runRequest
  cases found : s.requests.find? (·.number = number) with
  | none => exact renews.anew
  | some r =>
      have mem := List.mem_of_find?_eq_some found
      have own : r.number = number := by simpa using List.find?_some found
      rw [← own] at past
      simp only []
      cases stage : r.stage with
      | starting =>
          obtain ⟨alive, unused⟩ := vain r mem own stage
          rw [startRequest_of_none unused]
          exact renews.finishRequest_past past (alive_finishRequest numbered alive mem stage _)
      | waiting c id due lines =>
          obtain ⟨before, owned⟩ := renews.left r mem past c (by rw [Request.connection?, stage])
          have disposed := (renews.past c before).1
          have looked := renews.updatePast before (g := fun k => { k with
            session := ((s.connection c).session.resume s.now id due).2 })
            fun _ _ deaf => ⟨by simpa using disposed, deaf⟩
          simp only []
          split
          · obtain ⟨concluded, kept⟩ := looked.conclude_past r before lines _
            exact concluded.finishRequest_past past (alive_of_owned (kept.trans owned) r _)
          · exact looked.anew

/-- A job of the past runs: a request may be answered by that, and all others do nothing. -/
theorem run_past (renews : Renews b p q s f) (numbered : Numbered s) {j : Job}
    (past : b.job? j = none)
    (vain : ∀ r ∈ s.requests, j = .request r.number → r.stage = .starting →
      s.alive = true ∧ s.state.current = none) :
    Renews b (s.run j).output f.output (s.run j) f := by
  cases j with
  | attempt generation =>
      have old := Base.counted?_map_eq_none.1 past
      rw [show s.run (.attempt generation) = s by
        rw [System.run, System.runAttempt, renews.find_attempt_past old]]
      exact renews.anew
  | reader c =>
      rw [show s.run (.reader c) = s from
        renews.runReader_past (Base.placed?_map_eq_none.1 past)]
      exact renews.anew
  | pause token =>
      rw [show s.run (.pause token) = s from
        renews.runPause_past (Base.counted?_map_eq_none.1 past)]
      exact renews.anew
  | checks id =>
      rw [show s.run (.checks id) = s from
        renews.runChecks_past (Base.counted?_map_eq_none.1 past)]
      exact renews.anew
  | request number =>
      exact renews.runRequest_past numbered (Option.map_eq_none_iff.1 past)
        fun r mem own => vain r mem (congrArg Job.request own.symm)
  | peer c => exact renews.anew
  | parcel number => exact renews.anew

/-! ### Peers of the past

A peer does not know that its connection has been given up.  It may send texts that nobody reads,
and move a socket that nobody watches. -/

/-- A socket of the past may still be moved by its peer.  Nobody watches it. -/
theorem peerState_past (renews : Renews b p q s f) (past : c < b.connections) (state : SocketState) :
    Renews b p q (s.peerState c state) f := by
  have moved := renews.updatePast past (g := fun k => { k with link := k.link.setState state })
    fun k ended deaf => ⟨ended, by
      show (k.link.setState state).listening = false
      unfold Link.setState
      split <;> exact deaf⟩
  unfold System.peerState
  simp only []
  split
  · exact moved.wakeAllPast _
  · exact moved

/-- What concerns only the past changes nothing else. -/
theorem actPast (renews : Renews b p q s f) (numbered : Numbered s) {a : Action}
    (past : b.action? a = none)
    (vain : ∀ r ∈ s.requests, a = .run (.request r.number) → r.stage = .starting →
      s.alive = true ∧ s.state.current = none) :
    Renews b (s.act a).output f.output (s.act a) f := by
  cases a with
  | connect endpoint => cases past
  | setEndpoint endpoint => cases past
  | destroy => cases past
  | checkConnected => cases past
  | updateSettings settings => cases past
  | setPreamble preamble => cases past
  | setSnippets snippets => cases past
  | setObserver observer => cases past
  | ask origin feature target text place => cases past
  | disown => cases past
  | run j =>
      exact renews.run_past numbered (Option.map_eq_none_iff.1 past)
        fun r mem own => vain r mem (congrArg Action.run own)
  | wait ms => cases past
  | connectorFailed generation =>
      have old := Base.counted?_map_eq_none.1 past
      rw [show s.act (.connectorFailed generation) = s by
        rw [System.act, System.connectorFailed, renews.call?_past old]]
      exact renews.anew
  | connectorOpened generation state =>
      have old := Base.counted?_map_eq_none.1 past
      rw [show s.act (.connectorOpened generation state) = s by
        rw [System.act, System.connectorOpened, renews.call?_past old]]
      exact renews.anew
  | peerState c state =>
      exact (renews.peerState_past (Base.placed?_map_eq_none.1 past) state).anew
  | peerFeed c text =>
      have before := Base.placed?_map_eq_none.1 past
      rw [show s.act (.peerFeed c text) = s by
        rw [System.act, System.peerFeed, Link.mayFeed, (renews.past c before).2, Bool.and_false]
        rfl]
      exact renews.anew
  | peerEndFeed c =>
      have before := Base.placed?_map_eq_none.1 past
      exact ((renews.updatePast before (g := fun k => { k with link := k.link.endFeed })
        fun k ended deaf => ⟨ended, deaf⟩).wakePast (.reader c)).anew
  | peerGone c =>
      have before := Base.placed?_map_eq_none.1 past
      refine (((renews.peerState_past before .closed).updatePast before
        (g := fun k => { k with link := k.link.dropPeer }) fun k ended deaf => ⟨ended, ?_⟩).wakePast
          (.reader c)).anew
      show (k.link.setState .closed).listening = false
      unfold Link.setState
      split <;> exact deaf
  | peerTake c =>
      have before := Base.placed?_map_eq_none.1 past
      refine (renews.updatePast before
        (g := fun k => { k with link := (s.connection c).link.take.2 }) fun k ended _ => ⟨ended, ?_⟩).anew
      show (s.connection c).link.take.2.listening = false
      unfold Link.take
      split <;> exact (renews.past c before).2

end Renews

end LanguageBridge.Client.System
