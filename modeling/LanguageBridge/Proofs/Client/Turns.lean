import LanguageBridge.Proofs.Client.Waiting

/-!
# A request has its turn

A job that has its turn is taken from the agenda and runs.  If it is a request, it comes to one of
four things (`System.Comes`): it ends because it cannot be sent, it is sent and waits, it ends
because its call is over, or it waits on.  Whichever it is, the requests that are left are looked
after (`System.Comes.attended`).

## Conventions

`s.turn j` is a system in which the job `j` has had its turn, and `s.taken j` the one in between, in
which it has been taken from the agenda and has not run yet.  The request that runs is left out
while the others are followed: `s.besides number` are all requests but that one, and `Attended` is
said of a list of requests, not of the system, for this reason.
-/

namespace LanguageBridge.Client.System

open Editor (Answer)

variable {s t : System} {r : Request} {rs : List Request}

/-- A job taken from the agenda to have its turn. -/
def taken (s : System) (j : Job) : System :=
  { s with agenda := { s.agenda with ready := s.agenda.ready.filter (· ≠ j) } }

/-- A job that has its turn: it is not ready any more, and runs until it has to wait. -/
def turn (s : System) (j : Job) : System := (s.taken j).run j

/-- Other jobs stay on the agenda. -/
theorem mem_taken {j k : Job} (other : k ≠ j) (ready : k ∈ s.agenda.ready) :
    k ∈ (s.taken j).agenda.ready := List.mem_filter.2 ⟨ready, decide_eq_true other⟩

/-! ## What a request comes to

A request that has its turn is followed through its stages; each way out is one constructor of
`Comes`. -/

/-- A request that waits on, with nothing changed. -/
theorem update_self (s : System) {c : Nat} {session : Session}
    (same : session = (s.connection c).session) : (s.update c fun k => { k with session }) = s := by
  have connections : s.connections.modify c (fun k => { k with session }) = s.connections := by
    refine List.ext_getElem? fun d => ?_
    rw [List.getElem?_modify]
    split
    · rename_i here
      subst here
      cases found : s.connections[c]? with
      | none => rfl
      | some k =>
          have own : s.connection c = k := by rw [connection, found]; rfl
          rw [same, own]
          rfl
    · simp
  rw [update, connections]

/-- What a request that has its turn comes to, while some other requests are looked after. -/
inductive Comes (rs : List Request) (s : System) (r : Request) : System → Prop
  /-- It cannot be sent, or there is no time to wait. -/
  | refused {t : System} (starting : r.stage = .starting) (front : t.front = s.front)
      (attended : Attended rs t) : Comes rs s r (t.finishRequest r r.feature.nothing)
  /-- It is sent on the session in use, and waits. -/
  | sent {t : System} {c id due : Nat} {lines : UInt32} (starting : r.stage = .starting)
      (front : t.front = s.front) (attended : Attended rs t) (current : s.state.current = some c)
      (attempts : t.attempts = s.attempts) (unused : ∀ q ∈ rs, ¬q.Waits c id)
      (minds : ∀ up, (t.connection c).session.Minds id up) (early : t.now < due) :
      Comes rs s r ((t.setStage r.number (.waiting c id due lines)).arm (.request r.number) due)
  /-- Its call is over. -/
  | settled {t : System} {c id due : Nat} {lines : UInt32} {outcome : Outcome}
      (waiting : r.stage = .waiting c id due lines)
      (resumed : ((s.connection c).session.resume s.now id due).1 = .over outcome)
      (front : t.front = s.front) (state : t.state = s.state) (attended : Attended rs t) :
      Comes rs s r (t.settleRequest r c lines outcome)
  /-- It waits on. -/
  | waits {c id due : Nat} {lines : UInt32} (waiting : r.stage = .waiting c id due lines)
      (unanswered : ¬(s.connection c).session.Answered id) (early : s.now < due) : Comes rs s r s

namespace Comes

/-- A request that is refused by the session, or for which there is no time, ends with nothing. -/
theorem settle_error (starting : r.stage = .starting) (front : t.front = s.front)
    (attended : Attended rs t) (c : Nat) (lines : UInt32) (e : Failure) :
    Comes rs s r (t.settleRequest r c lines (.error e)) :=
  .refused starting ((front_requestFailed t c e).trans front) (attended.requestFailed c e)

theorem sendRequest (starting : r.stage = .starting) (front : t.front = s.front)
    (attended : Attended rs t) {c : Nat} (current : s.state.current = some c)
    (attempts : t.attempts = s.attempts) (within : c < t.connections.length) (lines : UInt32) :
    Comes rs s r (t.sendRequest r c lines) := by
  rcases called : (t.connection c).session.call (t.connection c).link t.now
    (t.connection c).session.requestTimeout r.feature.method
    (Message.placeParams t.state.options.documentUri
      (Preamble.toServer lines r.place)) with ⟨call, session, link⟩
  have spoke : Attended rs (t.exchange c session link) :=
    attended.exchange fun q mem id up waits minds => minds.call called
  have front' := (front_exchange t c session link).trans front
  unfold System.sendRequest
  simp only [called]
  cases call with
  | «over» outcome =>
      obtain ⟨e, rfl⟩ := Session.error_of_call called
      exact settle_error starting front' spoke c lines e
  | waiting id due =>
      obtain ⟨next, known, pending, early⟩ := Session.pending_of_call called
      have own : ((t.exchange c session link).connection c).session = session := by
        rw [connection_exchange, if_pos ⟨rfl, within⟩]
      refine .sent starting front' spoke current ?attempts ?unused (fun up => ?minds) ?early
      case attempts => exact (Talk.call t c called).attempts.trans attempts
      case unused =>
        -- Whoever waits on the session does so for an earlier id.
        rintro q mem ⟨due', lines', waiting⟩
        have attends := attended.each q mem
        unfold Attends at attends
        rw [waiting] at attends
        exact absurd attends.1.1 (next ▸ Nat.lt_irrefl _)
      case minds =>
        rw [own]
        exact ⟨known, .inl pending⟩
      case early =>
        have now : (t.exchange c session link).now = t.now := by
          unfold System.exchange
          simp only []
          split
          · exact (Spares.wake t.agenda _).now
          · rfl
        rwa [now]

theorem openDocument (starting : r.stage = .starting) (attended : Attended rs s) {c : Nat}
    (current : s.state.current = some c) : Comes rs s r (s.openDocument r c) := by
  unfold System.openDocument
  simp only []
  rcases notify_cases s c (r.opening s c) with ⟨link, sent, told⟩ | ⟨e, -, told⟩
  · have within : c < s.connections.length := by
      refine Nat.lt_of_not_le fun beyond => ?_
      rw [connection_of_length_le s beyond] at sent
      cases sent
    rw [Request.opening] at told
    simp only [told]
    refine sendRequest starting (front_exchange s c _ link) ?_ current (Talk.notify s c sent).attempts
      ((length_exchange s c _ link).symm ▸ within) _
    exact attended.exchange fun _ _ _ _ _ minds => minds
  · rw [Request.opening] at told
    simp only [told]
    exact .refused starting (front_requestFailed s c e) (attended.requestFailed c e)

theorem startRequest (starting : r.stage = .starting) (attended : Attended rs s) :
    Comes rs s r (s.startRequest r) := by
  unfold System.startRequest
  split
  · exact .refused starting rfl attended
  · rcases validSession_cases s with ⟨-, valid⟩ | ⟨c, current, -, valid⟩ | ⟨c, e, -, -, valid⟩
    · rw [valid]
      exact .refused starting rfl attended
    · rw [valid]
      simp only []
      split
      · exact openDocument starting attended current
      · exact .refused starting rfl attended
    · rw [valid]
      exact .refused starting (front_recover s c) (attended.recover c)

end Comes

/-- What a request that has its turn comes to.  None of the others waits for the same answer. -/
theorem comes_runRequest (attended : Attended rs s)
    (found : s.requests.find? (·.number = r.number) = some r)
    (apart : ∀ c id, r.Waits c id → ∀ q ∈ rs, ¬q.Waits c id) :
    Comes rs s r (s.runRequest r.number) := by
  unfold runRequest
  simp only [found]
  cases stage : r.stage with
  | starting => exact .startRequest stage attended
  | waiting c id due lines =>
      rcases resumed : (s.connection c).session.resume s.now id due with ⟨call, session⟩
      simp only [resumed]
      cases call with
      | «over» outcome =>
          refine .settled stage (congrArg Prod.fst resumed) rfl rfl
            (attended.update ?_)
          intro q mem other up waits minds
          have ne : other ≠ id := by
            rintro rfl
            exact apart c other ⟨due, lines, stage⟩ q mem waits
          have kept := minds.resume ne s.now due
          rwa [resumed] at kept
      | waiting id' due' =>
          obtain ⟨unanswered, early, same⟩ := Session.waits_of_resume resumed
          rw [update_self s same]
          exact .waits stage unanswered early

/-! ## Those that are left

While one request runs the others are only looked after if nothing that it does loses them.  It
may drop a stale session, and then whoever else waits on that session is woken. -/

namespace Attended

theorem conclude (attended : Attended rs s) (r : Request) (c : Nat) (lines : UInt32)
    (outcome : Outcome) : Attended rs (s.conclude r c lines outcome).2 := by
  unfold System.conclude
  split
  · exact attended.requestFailed c _
  · split
    · exact attended.requestFailed c _
    · unfold observe
      split
      · exact attended
      · exact attended.same rfl rfl (.refl _) fun _ => .inl
      · exact attended.same rfl rfl (.refl _) fun _ => .inl
    · exact attended

/-- A request that is over takes nothing away from the others. -/
theorem finishRequest (attended : Attended rs s) (others : ∀ q ∈ rs, q.number ≠ r.number)
    (answer : Answer) : Attended rs (s.finishRequest r answer) := by
  have left : Attended rs ({ s with
      requests := s.requests.filter (·.number ≠ r.number) }.forget (.request r.number)) := by
    refine ⟨fun q mem => ?among, fun q mem => ?each, attended.early⟩
    case among =>
      exact List.mem_filter.2 ⟨attended.among q mem, decide_eq_true (others q mem)⟩
    case each =>
      have other : Job.request q.number ≠ .request r.number :=
        fun same => others q mem (Job.request.inj same)
      have still (there : .request q.number ∈ s.agenda.ready) :
          .request q.number ∈ (s.agenda.forget (.request r.number)).ready :=
        (s.agenda.mem_ready_forget _ _).2 ⟨there, other⟩
      have attends := attended.each q mem
      unfold Attends at attends ⊢
      split at attends
      · exact still attends
      · obtain ⟨minds, timed⟩ := attends
        refine ⟨minds.mono still, timed.imp (And.imp_left fun armed => ?_) (And.imp_right still)⟩
        exact List.mem_filter.2 ⟨armed, decide_eq_true other⟩
  refine Attended.release ?_
  unfold deliver
  split
  · exact left.same rfl rfl (.refl _) fun _ => .inl
  · exact left.same rfl rfl (.refl _) fun _ => .inl
  · exact left.same rfl rfl (.refl _) fun _ => .inl
  · exact left

theorem settleRequest (attended : Attended rs s) (others : ∀ q ∈ rs, q.number ≠ r.number) (c : Nat)
    (lines : UInt32) (outcome : Outcome) : Attended rs (s.settleRequest r c lines outcome) :=
  (attended.conclude r c lines outcome).finishRequest others _

end Attended

/-- The requests beside one. -/
def besides (s : System) (number : Nat) : List Request := s.requests.filter (·.number ≠ number)

/-- Besides one request there are all the others. -/
theorem mem_besides {q : Request} {number : Nat} :
    q ∈ s.besides number ↔ q ∈ s.requests ∧ q.number ≠ number := by
  simp [besides]

/-- A request that has its turn can still be told. -/
def Poised (s : System) (r : Request) : Prop :=
  ∀ c id due lines, r.stage = .waiting c id due lines →
    (s.connection c).session.Minds id True ∧
      (⟨due, .request r.number⟩ ∈ s.agenda.timers ∨ due ≤ s.now)

/-- Two requests that wait for the same answer are one. -/
def Apart (s : System) : Prop :=
  ∀ r ∈ s.requests, ∀ q ∈ s.requests, ∀ c id, r.Waits c id → q.Waits c id → r.number = q.number

section Requests

variable {u : System} {c id due : Nat} {lines : UInt32}

/-- A request that is finished is gone, and the others are as they were. -/
theorem requests_finishRequest {answer : Answer} (front : t.front = s.front) :
    (t.finishRequest r answer).requests = s.besides r.number := by
  have kept : t.requests = s.requests := congrArg Front.requests front
  rw [besides, ← kept]
  exact congrArg Prod.fst (asking_finishRequest t r answer)

theorem requests_settleRequest {outcome : Outcome} (front : t.front = s.front) :
    (t.settleRequest r c lines outcome).requests = s.besides r.number := by
  have kept : (t.conclude r c lines outcome).2.requests = s.requests :=
    (congrArg Prod.fst (asking_conclude t r c lines outcome)).trans (congrArg Front.requests front)
  rw [besides, ← kept]
  exact congrArg Prod.fst (asking_finishRequest _ r _)

/-- A request that has its turn ends, or is sent, or waits on. -/
theorem Comes.requests (comes : Comes rs s r u) :
    u.requests = s.besides r.number ∨
    (∃ c id due lines, u.requests = (s.setStage r.number (.waiting c id due lines)).requests ∧
      s.state.current = some c ∧ ∀ q ∈ rs, ¬q.Waits c id) ∨ u = s := by
  cases comes with
  | refused starting front attended => exact .inl (requests_finishRequest front)
  | @sent t c id due lines starting front attended current attempts unused minds early =>
      refine .inr (.inl ⟨c, id, due, lines, ?_, current, unused⟩)
      show (t.setStage _ _).requests = _
      unfold setStage
      rw [show t.requests = s.requests from congrArg Front.requests front]
  | settled waiting resumed front state attended => exact .inl (requests_settleRequest front)
  | waits waiting unanswered early => exact .inr (.inr rfl)

/-- When its time is up, a request that waits ends. -/
theorem Comes.ended (comes : Comes rs s r u) (waiting : r.stage = .waiting c id due lines)
    (up : due ≤ s.now) : u.requests = s.besides r.number := by
  cases comes with
  | refused starting front attended => cases waiting.symm.trans starting
  | sent starting => cases waiting.symm.trans starting
  | settled waiting' resumed front state attended => exact requests_settleRequest front
  | waits waiting' unanswered early =>
      cases waiting.symm.trans waiting'
      exact absurd up (Nat.not_le_of_lt early)

end Requests

/-- A request that waits with its timer armed, beside others that are looked after. -/
theorem Attended.stage (attended : Attended (s.besides r.number) s) {c id due : Nat} {lines : UInt32}
    (minds : ∀ up, (s.connection c).session.Minds id up) (early : s.now < due)
    (free : ∀ a ∈ s.attempts, ¬a.phase.Prepares c) :
    Attended (s.setStage r.number (.waiting c id due lines)).requests
      ((s.setStage r.number (.waiting c id due lines)).arm (.request r.number) due) := by
  have either {q : Request} (mem : q ∈ (s.setStage r.number (.waiting c id due lines)).requests) :
      q ∈ s.besides r.number ∨ q.number = r.number ∧ q.stage = .waiting c id due lines := by
    obtain ⟨p, before, rfl⟩ := List.mem_map.1 mem
    by_cases own : p.number = r.number
    · rw [if_pos own]
      exact .inr ⟨own, rfl⟩
    · rw [if_neg own]
      exact .inl (mem_besides.2 ⟨before, own⟩)
  refine ⟨fun q mem => mem, fun q mem => ?_, fun a there d prepares q mem other waits => ?_⟩
  · rcases either mem with other | ⟨own, waiting⟩
    · exact (attended.each q other).mono (.arm _ _ _) fun _ _ _ minds => minds
    · unfold Attends
      rw [waiting]
      refine ⟨minds _, .inl ⟨List.mem_append_right _ ?_, early⟩⟩
      rw [own]
      exact List.mem_singleton_self _
  · rcases either mem with before | ⟨-, waiting⟩
    · exact attended.early a there d prepares q before other waits
    · obtain ⟨due', lines', same⟩ := waits
      cases waiting.symm.trans same
      exact free a there prepares

/-- After the turn of a request, all requests are looked after. -/
theorem Comes.attended {u : System} (comes : Comes (s.besides r.number) s r u)
    (mem : r ∈ s.requests) (numbered : Numbered s) (poised : s.Poised r)
    (attended : Attended (s.besides r.number) s)
    (early : ∀ a ∈ s.attempts, ∀ c, a.phase.Prepares c → Unwaited s.requests c)
    (free : ∀ c, s.state.current = some c → ∀ a ∈ s.attempts, ¬a.phase.Prepares c) :
    Attended u.requests u := by
  have others : ∀ q ∈ s.besides r.number, q.number ≠ r.number := fun q mem => (mem_besides.1 mem).2
  cases comes with
  | refused starting front attended =>
      rw [requests_finishRequest front]
      exact attended.finishRequest others _
  | @sent t c id due lines starting front attended current attempts unused minds early =>
      have same : t.besides r.number = s.besides r.number := by
        rw [besides, show t.requests = s.requests from congrArg Front.requests front, besides]
      exact Attended.stage (same ▸ attended) minds early (attempts ▸ free c current)
  | @settled t c id due lines outcome waiting resumed front state attended =>
      rw [requests_settleRequest front]
      exact attended.settleRequest others c lines outcome
  | @waits c id due lines waiting unanswered ahead =>
      refine ⟨fun q mem => mem, fun q there => ?_, early⟩
      by_cases own : q.number = r.number
      · -- It has not been answered and has time left, so it is pending and its timer is armed.
        obtain rfl := List.inj_on_of_nodup_map numbered.distinct there mem own
        obtain ⟨⟨known, told⟩, timed⟩ := poised c id due lines waiting
        unfold Attends
        rw [waiting]
        refine ⟨⟨known, .inl (told.resolve_right fun answered => unanswered answered.1)⟩, .inl ⟨?_, ahead⟩⟩
        exact timed.resolve_right (Nat.not_le_of_lt ahead)
      · exact attended.each q (mem_besides.2 ⟨there, own⟩)

/-- Two requests still wait for different answers, and whoever has begun to wait does so on the
session in use. -/
theorem Comes.apart {u : System} (comes : Comes (s.besides r.number) s r u) (apart : s.Apart) :
    u.Apart ∧ ∀ q ∈ u.requests, ∀ c id, q.Waits c id →
      (∃ p ∈ s.requests, p.Waits c id) ∨ s.state.current = some c := by
  have fewer (subset : ∀ q ∈ u.requests, q ∈ s.requests) : u.Apart ∧ ∀ q ∈ u.requests, ∀ c id,
      q.Waits c id → (∃ p ∈ s.requests, p.Waits c id) ∨ s.state.current = some c :=
    ⟨fun q mem p mem' => apart q (subset q mem) p (subset p mem'),
      fun q mem c id waits => .inl ⟨q, subset q mem, waits⟩⟩
  rcases comes.requests with left | ⟨c, id, due, lines, staged, current, unused⟩ | rfl
  · exact fewer fun q mem => (List.mem_filter.1 (left ▸ mem)).1
  · have either {q : Request} (mem : q ∈ u.requests) : q ∈ s.besides r.number ∨
        q.number = r.number ∧ ∀ d other, q.Waits d other → d = c ∧ other = id := by
      rw [staged] at mem
      obtain ⟨p, before, rfl⟩ := List.mem_map.1 mem
      by_cases own : p.number = r.number
      · rw [if_pos own]
        refine .inr ⟨own, ?_⟩
        rintro d other ⟨due', lines', waiting⟩
        cases waiting
        exact ⟨rfl, rfl⟩
      · rw [if_neg own]
        exact .inl (mem_besides.2 ⟨before, own⟩)
    refine ⟨fun q mem p mem' d other waits waits' => ?_, fun q mem d other waits => ?_⟩
    · rcases either mem with old | ⟨own, new⟩ <;> rcases either mem' with old' | ⟨own', new'⟩
      · exact apart q (mem_besides.1 old).1 p (mem_besides.1 old').1 d other waits waits'
      · obtain ⟨rfl, rfl⟩ := new' d other waits'
        exact absurd waits (unused q old)
      · obtain ⟨rfl, rfl⟩ := new d other waits
        exact absurd waits' (unused p old')
      · exact own.trans own'.symm
    · rcases either mem with old | ⟨-, new⟩
      · exact .inl ⟨q, (mem_besides.1 old).1, waits⟩
      · exact .inr ((new d other waits).1 ▸ current)
  · exact fewer fun _ => id

end LanguageBridge.Client.System
