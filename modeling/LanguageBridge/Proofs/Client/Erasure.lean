import LanguageBridge.Proofs.Client.Live
import LanguageBridge.Proofs.Client.Lockstep

/-!
# A new endpoint erases the past

Two clients that have been told the same are given the same new endpoint.  Whatever happened to
either before does not matter any more (`System.setEndpoint_erases`).

What one client has done since is compared with what the other one has done since through a third
one, which has no past: it was set up in the same way and was given the endpoint at once.  Either
client is the same as that one apart from its past (`System.renews_setEndpoint`), and stays so in
every run that leaves its past alone (`System.Renews.acts`).

The runs of the two clients are the same if they are the same without what only concerns the past of
either (`Base.action?`): what is left of old attempts, pauses and connections may go on in between,
in any order, and requests that were in flight come to their end.

## Why a third client

The two clients count differently, so one would have to be renamed into the other in both
directions.  Against a blank client each needs one renaming, and both renamings are by addition
(`Base`).  The outlooks and outputs of the two then agree because each agrees with that of the blank
one (`Renews.outlook`, `Renews.news`).

## What is required of the runs

* A client is held by its owner when it is given the endpoint, and it has not been destroyed.
* Requests that were made and have not begun may have been made by both; those listed as `idle` are
  followed on both sides, and all others count as the past of one of them.
* `Base.leavesPast` keeps a run from using a leftover of the past for what it cannot be used for in
  the other client: a request that has not begun and that the other client does not know must not
  start while there is a session, and the owner must not let go while a request of the past holds
  the client.
-/

namespace LanguageBridge.Client

/-- The action by which a request is made. -/
def Request.asks (r : Request) : Action := .ask r.origin r.feature r.target r.text r.place

namespace System

/-! ## What is looked at

Somebody who watches a client sees its state, the calls of its connector, what it sends and what
comes out.  Connections, sessions and times are counted from the base, that is, less what had been
used up when the new endpoint was set; tokens and generations are not seen at all. -/

/-- Some requests that have been made and have not begun. -/
def Idle (s : System) (idle : List Request) : Prop :=
  idle.Sublist s.requests ∧ ∀ r ∈ idle, r.stage = .starting

/-- What a client has used up, and the requests that are looked at although they were made
before. -/
def base (s : System) (idle : List Request) : Base where
  now := s.now
  generation := s.state.generation
  connections := s.connections.length
  sessions := s.sessions
  token := s.state.retry.issued
  series := s.seriesMade
  asked := s.asked
  idle := idle.map Request.number

/-- What has come out of a client between two states. -/
def news (s t : System) : Output where
  answers := t.answers.drop s.answers.length
  events := t.events.drop s.events.length
  observed := t.observed.drop s.observed.length

/-- What comes out of a client at each of some actions, for those that are looked at. -/
def results (s : System) (looked : Action → Bool) : List Action → List Output
  | [] => []
  | a :: rest =>
    if looked a then s.news (s.act a) :: (s.act a).results looked rest
    else (s.act a).results looked rest

end System

/-- What is seen of a client by somebody who does not look at its past. -/
structure Outlook where
  endpoint : Option String
  /-- The count of failed attempts. -/
  attempts : Nat
  /-- The delay of the pending retry, and when it is due once the delay has begun. -/
  pending : Option (Duration × Option Nat)
  current : Option Nat
  socket : Option Nat
  /-- Whether the health of a connection is checked. -/
  checked : Bool
  /-- The calls of the connector, with what has become of each. -/
  calls : List Connection

namespace Base

/-- A connection seen from a base. -/
def seen (b : Base) (k : Connection) : Connection :=
  { k with calledAt := k.calledAt - b.now, number := k.number.map (· - b.sessions) }

/-- What is seen of a client from a base. -/
def outlook (b : Base) (s : System) : Outlook where
  endpoint := s.state.endpoint
  attempts := s.state.retry.attempts
  pending := s.state.retry.pending.bind fun token =>
    (s.pauses.find? (·.token = token)).map fun p => (p.delay, p.due.map (· - b.now))
  current := s.state.current.map (· - b.connections)
  socket := s.state.socket.map (· - b.connections)
  checked := s.state.checks.isSome
  calls := (s.connections.drop b.connections).map b.seen

/-- Whether an action leaves the past of a client alone.  Of the other requests that were made
before, none begins once there is a session in use again, and the owner does not let go of the
client before those that hold it are over.  All of them are ready when the endpoint is set, so they
are over before anybody new has a turn. -/
def leaves (b : Base) (s : System) : Action → Bool
  | .disown => s.requests.all fun r => (b.number? r.number).isSome || r.connection?.isNone
  | .run (.request number) =>
    (b.number? number).isSome || s.alive && s.state.current.isNone ||
      s.requests.all fun r => r.number ≠ number || r.stage ≠ .starting
  | _ => true

/-- Whether all of some actions do. -/
def leavesPast (b : Base) (s : System) : List Action → Bool
  | [] => true
  | a :: rest => b.leaves s a && b.leavesPast (s.act a) rest

variable {b : Base} {s : System}

/-- A client whose past may be left can be let go: no request of the past holds it. -/
theorem free_of_leaves (leaves : b.leaves s .disown = true) :
    ∀ r ∈ s.requests, b.number? r.number = none → r.connection? = none := by
  intro r mem past
  simpa [past] using List.all_eq_true.1 leaves r mem

/-- A request of the past that has not begun finds no session, so it starts in vain. -/
theorem vain_of_leaves {a : Action} (leaves : b.leaves s a = true) (past : b.action? a = none) :
    ∀ r ∈ s.requests, a = .run (.request r.number) → r.stage = .starting →
      s.alive = true ∧ s.state.current = none := by
  rintro r mem rfl starting
  have unknown : b.number? r.number = none :=
    Option.map_eq_none_iff.1 (Option.map_eq_none_iff.1 past)
  simp only [Base.leaves, unknown, Option.isSome_none, Bool.false_or, Bool.or_eq_true] at leaves
  rcases leaves with unused | begun
  · simpa using unused
  · exact absurd starting (by simpa using List.all_eq_true.1 begun r mem)

end Base

namespace System

variable {s t f g : System} {b b' : Base}

/-! ## Clients in step

Two clients do the same if they do the same as a third.  Either is compared with the client
without a past by an induction along its own run; actions that concern only its past are skipped
by the other. -/

namespace Renews

variable {p q : Output}

/-- The output since then is the same on both sides. -/
theorem news (renews : Renews b s.output f.output t g) : s.news t = f.news g := by
  obtain ⟨answers, left, right⟩ := renews.answers
  obtain ⟨events, left', right'⟩ := renews.events
  obtain ⟨observed, left'', right''⟩ := renews.observed
  simp only [System.news, left, right, left', right', left'', right'', output, List.drop_left]

/-- A client with a past does in any run that leaves its past alone what one without a past does in
the part of the run that is not about the past. -/
theorem acts {options : Options} (renews : Renews b p q s f) (left : Reachable options s)
    (right : Reachable options f) {actions : List Action}
    (leaves : b.leavesPast s actions = true) :
    Renews b (s.acts actions).output (f.acts (actions.filterMap b.action?)).output (s.acts actions)
        (f.acts (actions.filterMap b.action?)) ∧
      s.results (fun a => (b.action? a).isSome) actions
        = f.results (fun _ => true) (actions.filterMap b.action?) := by
  -- What has come out is compared from one action to the next, so the relation starts anew at each.
  induction actions generalizing p q s f with
  | nil => exact ⟨renews.anew, rfl⟩
  | cons a rest ih =>
      obtain ⟨first, leaves⟩ := Bool.and_eq_true_iff.1 leaves
      cases seen : b.action? a with
      | none =>
          have passed := renews.actPast left.numbered seen (Base.vain_of_leaves first seen)
          rw [List.filterMap_cons_none seen, results, if_neg (by simp [seen])]
          exact ih passed (left.act a) right leaves
      | some a' =>
          have done := renews.anew.act left right seen
            (by rintro rfl; exact Base.free_of_leaves first)
          obtain ⟨stay, same⟩ := ih done (left.act a) (right.act a') leaves
          rw [List.filterMap_cons_some seen, results, if_pos (by simp [seen]), results, if_pos rfl,
            same, done.news]
          exact ⟨stay, rfl⟩

/-- Two clients that are the same as a third one apart from their pasts look the same. -/
theorem outlook (left : Renews b p q s f) {p' q' : Output} (right : Renews b' p' q' t f) :
    b.outlook s = b'.outlook t := by
  have plain {b : Base} {p q : Output} {s : System} (renews : Renews b p q s f) :
      b.outlook s = ⟨f.state.endpoint, f.state.retry.attempts,
        f.state.retry.pending.bind fun token =>
          (f.pauses.find? (·.token = token)).map fun p => (p.delay, p.due),
        f.state.current, f.state.socket, f.state.checks.isSome, f.connections⟩ := by
    have calls : (s.connections.drop b.connections).map b.seen = f.connections := by
      refine List.ext_getElem? fun c => ?_
      rw [List.getElem?_map, List.getElem?_drop, renews.connections]
      cases f.connections[c]? with
      | none => rfl
      | some k =>
          obtain ⟨_, _, _, _, number, _⟩ := k
          cases number <;> simp [Base.seen, Base.connection]
    unfold Base.outlook
    rw [calls, renews.endpoint, renews.retry, renews.current, renews.socket, renews.checks]
    simp [Base.retry, Option.bind_map, renews.find_pause, Function.comp_def, Base.pause]
  rw [plain left, plain right]

end Renews

/-! ## Clocks

Clients may have been started at different times.  No theorem compares their clocks; times of
calls are seen from the moment at which the endpoint was set. -/

@[simp] theorem now_wakeAll (s : System) (js : List Job) : (s.wakeAll js).now = s.now :=
  (spares_wakeAll s js).now

@[simp] theorem now_closeSocket (s : System) (c : Nat) : (s.closeSocket c).now = s.now := by
  unfold closeSocket exchange
  simp only []
  split
  · exact (Spares.wake _ _).now
  · rfl

@[simp] theorem now_dispose (s : System) (c : Nat) : (s.dispose c).now = s.now := by
  unfold dispose
  simp only []
  split
  · rfl
  · exact now_wakeAll _ _

@[simp] theorem now_disposeAny (s : System) (c : Option Nat) : (s.disposeAny c).now = s.now := by
  cases c with
  | none => rfl
  | some c => exact now_dispose s c

@[simp] theorem now_closeAny (s : System) (c : Option Nat) : (s.closeAny c).now = s.now := by
  cases c with
  | none => rfl
  | some c => exact now_closeSocket s c

@[simp] theorem now_cancelRetry (s : System) : s.cancelRetry.now = s.now := by
  show s.stopPause.now = s.now
  unfold stopPause
  split <;> rfl

@[simp] theorem now_stopChecks (s : System) : s.stopChecks.now = s.now := by
  unfold stopChecks
  split <;> rfl

@[simp] theorem now_stopAttempt (s : System) : s.stopAttempt.now = s.now := by
  unfold stopAttempt
  split
  · rfl
  · show (s.endAttempt _).now = s.now
    unfold endAttempt
    split
    · rfl
    · unfold leave
      split
      · rfl
      · rfl
      · exact now_dispose _ _
      · exact now_dispose _ _

/-- Connecting takes no time: the connector is asked when the attempt runs. -/
@[simp] theorem now_connect (s : System) (endpoint : String) : (s.connect endpoint).now = s.now := by
  unfold connect
  split
  · rfl
  · refine (Spares.wake _ _).now.trans ?_
    show (System.closeAny _ _).now = s.now
    rw [now_closeAny, now_disposeAny]
    show (System.stopChecks _).now = s.now
    rw [now_stopChecks, now_stopAttempt, now_cancelRetry]
    rfl

/-- A client has its new endpoint at the moment at which it is told. -/
theorem now_setEndpoint (s : System) (endpoint : String) : (s.setEndpoint endpoint).now = s.now := by
  unfold setEndpoint
  split
  · rfl
  · simp only [now_connect, now_disposeAny]
    exact now_cancelRetry s

/-! ## The client without a past

It is set up by calls of its owner, so it is reachable, and what holds in every run holds of it.
Requests that have been made and had not begun are made by it as well, in their order. -/

/-- A client that has been set up and has done nothing else. -/
def setUp (options : Options) (preamble : Option String) (snippets : List Editor.Snippet)
    (observer : Option Observer) : System :=
  { fresh options with state := { State.fresh options with preamble, snippets, observer } }

/-- The client without a past is reachable: it is set up by its owner's calls. -/
theorem reachable_setUp (options : Options) (preamble : Option String)
    (snippets : List Editor.Snippet) (observer : Option Observer) :
    Reachable options (setUp options preamble snippets observer) := by
  have told : Reachable options (setUp options preamble snippets none) :=
    Reachable.fresh.acts [.setPreamble preamble, .setSnippets snippets]
  cases observer with
  | none => exact told
  | some observer => exact told.act (.setObserver observer)

/-- Some requests with the numbers that they get when they are made one after another. -/
def numberedFrom (asked : Nat) (rs : List Request) : List Request :=
  rs.mapIdx fun i r => { r with number := asked + i + 1, stage := .starting }

/-- Requests made one after another, with the numbers that follow. -/
theorem acts_asks (s : System) (rs : List Request) :
    s.acts (rs.map Request.asks) =
      { s with
        agenda := (s.acts (rs.map Request.asks)).agenda
        asked := s.asked + rs.length
        requests := s.requests ++ numberedFrom s.asked rs } := by
  induction rs generalizing s with
  | nil => simp [numberedFrom, acts_nil]
  | cons r rest ih =>
      rw [List.map_cons, acts_cons, ih]
      simp [Request.asks, act, ask, wake, numberedFrom, List.mapIdx_cons, Nat.add_assoc,
        Nat.add_comm 1]

theorem now_acts_asks (s : System) (rs : List Request) :
    (s.acts (rs.map Request.asks)).now = s.now := by
  induction rs generalizing s with
  | nil => rfl
  | cons r rest ih =>
      rw [List.map_cons, acts_cons, ih]
      exact (Spares.wake _ _).now

/-- The client that has no past, with the requests that are looked at. -/
def blank (options : Options) (s : System) (idle : List Request) : System :=
  (setUp options s.state.preamble s.state.snippets s.state.observer).acts (idle.map Request.asks)

/-! ## The start

At the moment of the new endpoint the two clients have to be brought into the relation `Renews`
from nothing.  What makes this possible is that the old attempt, pause and checks have been
stopped, and that the old connection is over. -/

/-- In every reachable client somebody looks after each request. -/
theorem Reachable.live {options : Options} (run : Reachable options s) : Live s := by
  induction run with
  | fresh => exact .fresh options
  | act a _ ih => exact ih.act a

/-- A request waits only on a connection that the connector was asked for. -/
theorem Reachable.connection_lt {options : Options} (run : Reachable options s) {r : Request}
    (mem : r ∈ s.requests) {c : Nat} (waits : r.connection? = some c) : c < s.connections.length := by
  refine Nat.lt_of_not_le fun beyond => ?_
  unfold Request.connection? at waits
  cases stage : r.stage with
  | starting =>
      rw [stage] at waits
      cases waits
  | waiting d id due lines =>
      rw [stage] at waits
      cases waits
      exact run.live.attended.unwaited_of_beyond beyond r mem id ⟨due, lines, stage⟩

/-- Requests that are told apart by their numbers are picked out by them. -/
theorem filter_of_sublist {rs idle : List Request} (sub : idle.Sublist rs)
    (distinct : (rs.map Request.number).Nodup) :
    rs.filter (fun r => r.number ∈ idle.map Request.number) = idle := by
  induction sub with
  | slnil => rfl
  | cons r sub ih =>
      obtain ⟨other, distinct⟩ := List.nodup_cons.1 distinct
      rw [List.filter_cons_of_neg, ih distinct]
      rw [decide_eq_true_iff]
      exact fun own => other ((sub.map _).subset own)
  | cons_cons r sub ih =>
      obtain ⟨other, distinct⟩ := List.nodup_cons.1 distinct
      rw [List.filter_cons_of_pos (by simp)]
      refine congrArg _ (Eq.trans (List.filter_congr fun q mem => ?_) (ih distinct))
      have apart : q.number ≠ r.number := fun same => other (same ▸ List.mem_map_of_mem mem)
      simp [apart]

section

variable {options : Options} {idle : List Request}

/-- A reachable client is a sound base: requests have numbers of their own that were given out. -/
theorem sound_base (run : Reachable options s) (unbegun : s.Idle idle) : (s.base idle).Sound where
  distinct := (unbegun.1.map _).nodup run.numbered.distinct
  asked := fun n mem => by
    obtain ⟨r, known, rfl⟩ := List.mem_map.1 mem
    exact run.numbered.asked r (unbegun.1.subset known)

/-- The requests that are looked at are the ones that the client without a past has. -/
theorem requests_base (run : Reachable options s) (unbegun : s.Idle idle) :
    s.requests.filter (fun r => ((s.base idle).number? r.number).isSome)
      = (numberedFrom 0 idle).map (s.base idle).request := by
  have known : s.requests.filter (fun r => ((s.base idle).number? r.number).isSome)
      = s.requests.filter fun r => r.number ∈ idle.map Request.number := by
    refine List.filter_congr fun r mem => ?_
    -- Whatever has a number so far is looked at only if it is listed.
    have old : r.number ≤ (s.base idle).asked := run.numbered.asked r mem
    unfold Base.number?
    split
    · rename_i looked
      exact (decide_eq_true looked).symm
    · rename_i other
      exact (decide_eq_false other).symm
  rw [known, filter_of_sublist unbegun.1 run.numbered.distinct]
  refine List.ext_getElem? fun i => ?_
  simp only [numberedFrom, List.getElem?_map, List.getElem?_mapIdx]
  cases there : idle[i]? with
  | none => rfl
  | some r =>
      have starting := unbegun.2 r (List.mem_of_getElem? there)
      obtain ⟨number, _, _, _, _, _, stage⟩ := r
      cases starting
      simp [Base.request, Base.number, System.base, there, Base.stage]

/-- A client that is given a new endpoint, and the client without a past that is given it at once,
are the same apart from the past of the former. -/
theorem renews_setEndpoint (run : Reachable options s) (owned : s.owned = true)
    (lasting : s.state.destroyed = false) (unbegun : s.Idle idle) (endpoint : String) :
    Renews (s.base idle) (s.setEndpoint endpoint).output
      ((blank options s idle).setEndpoint endpoint).output (s.setEndpoint endpoint)
      ((blank options s idle).setEndpoint endpoint) := by
  have blankRun : Reachable options (blank options s idle) := (reachable_setUp _ _ _ _).acts _
  have form : blank options s idle = _ := acts_asks _ idle
  have working := run.working (by rw [System.alive, owned]; rfl) lasting
  have now := now_setEndpoint s endpoint
  have now' : ((blank options s idle).setEndpoint endpoint).now = 0 :=
    (now_setEndpoint _ endpoint).trans (now_acts_asks _ idle)
  have working' : Working (blank options s idle) := blankRun.working (by rw [form]; rfl) (by rw [form]; rfl)
  -- Setting the endpoint says of everything what becomes of it, but for agendas and connections.
  obtain ⟨t, gone, made⟩ := setEndpoint_eq working.toTidy lasting endpoint
  obtain ⟨u, gone', made'⟩ := setEndpoint_eq working'.toTidy working'.lasting endpoint
  obtain ⟨agenda, connections, rfl⟩ : ∃ agenda connections, t = { s with agenda, connections } :=
    ⟨_, _, gone.calm.rest⟩
  obtain ⟨agenda', connections', rfl⟩ :
      ∃ agenda connections, u = { blank options s idle with agenda, connections } :=
    ⟨_, _, gone'.calm.rest⟩
  have length : connections.length = s.connections.length := gone.calm.length
  have none : connections' = [] :=
    List.eq_nil_of_length_eq_zero (gone'.calm.length.trans (by rw [form]; rfl))
  obtain ⟨told, backoff, forced⟩ := run.terms
  rw [made] at now ⊢
  rw [made'] at now' ⊢
  rw [form] at now' ⊢
  exact {
    sound := sound_base run unbegun
    now := now.trans (congrArg (s.now + ·) now').symm
    owned := owned
    options := told
    destroyed := lasting
    preamble := rfl
    snippets := rfl
    observer := rfl
    endpoint := rfl
    generation := rfl
    begun := Nat.succ_pos _
    socket := rfl
    current := rfl
    installed := .inr ⟨rfl, working.installed⟩
    retry := by
      simp only [Retry.reset, Retry.cancel, backoff, forced]
      rfl
    checks := rfl
    task := rfl
    attempts := rfl
    pauses := rfl
    series := rfl
    attempted := fun a mem => by
      rw [List.mem_singleton.1 mem]
      exact Nat.succ_pos _
    paused := fun _ mem => absurd mem List.not_mem_nil
    checked := fun _ mem => absurd mem List.not_mem_nil
    numbered := fun r mem => by
      obtain ⟨i, within, same⟩ := List.mem_mapIdx.1 mem
      rw [← same]
      exact Nat.succ_pos _
    requests := requests_base run unbegun
    left := fun r mem _ c waits => ⟨run.connection_lt mem waits, owned⟩
    asked := by simp [System.base, setUp, fresh]
    idle := by simp [System.base, setUp, fresh]
    length := by rw [none]; exact length
    connections := fun c => by
      rw [none, List.getElem?_eq_none (by rw [length]; exact Nat.le_add_right _ _)]
      rfl
    past := fun c _ => ⟨gone.disposed c,
      ((gone.calm.connection c).coherent (working.coherent c)).silent (gone.disposed c)⟩
    sessions := rfl
    seriesMade := rfl
    answers := ⟨[], (List.append_nil _).symm, (List.append_nil _).symm⟩
    events := ⟨[], (List.append_nil _).symm, (List.append_nil _).symm⟩
    observed := ⟨[], (List.append_nil _).symm, (List.append_nil _).symm⟩ }

end

/-! ## The new endpoint

The theorem has three parts: either client starts over, the two agree at once, and they go on to
agree in any two runs that are the same but for what concerns their pasts. -/

/-- Two clients that are not destroyed and have been told the same, with requests of each that have
not begun and ask for the same.  Both have an owner: nobody else can give them an endpoint. -/
structure ToldAlike (s t : System) (idle idle' : List Request) : Prop where
  owned : s.owned = true
  owned' : t.owned = true
  lasting : s.state.destroyed = false
  lasting' : t.state.destroyed = false
  preamble : t.state.preamble = s.state.preamble
  snippets : t.state.snippets = s.state.snippets
  observer : t.state.observer = s.state.observer
  unbegun : s.Idle idle
  unbegun' : t.Idle idle'
  alike : idle'.map Request.asks = idle.map Request.asks

/-- A client that has just been given an endpoint. -/
structure StartsOver (s : System) (endpoint : String) : Prop where
  known : s.state.endpoint = some endpoint
  attempts : s.state.retry.attempts = 0
  pending : s.state.retry.pending = none
  current : s.state.current = none
  socket : s.state.socket = none
  checks : s.state.checks = none
  /-- Nothing else runs for it but the new attempt. -/
  alone : s.attempts = [⟨s.state.generation, endpoint, .starting⟩] ∧ s.pauses = [] ∧ s.series = []
  /-- A request that still holds the client has its turn at once, and is over then. -/
  left : ∀ r ∈ s.requests, r.connection?.isSome → .request r.number ∈ s.agenda.ready ∧
    r.number ∉ (s.run (.request r.number)).requests.map Request.number

/-- Two clients that look the same and answer the same. -/
structure Agree (b b' : Base) (s t : System) : Prop where
  outlook : b.outlook s = b'.outlook t
  connected : s.isConnected.1 = t.isConnected.1
  settings : ∀ settings, (s.updateSettings settings).1 = (t.updateSettings settings).1
  /-- While a session is in use, the same requests reach a provider. -/
  providers : s.state.current.isSome → ∀ r, s.findsProvider r = t.findsProvider r

/-- Whatever has happened to two clients before does not matter once they have been given an
endpoint. -/
structure ErasesPast (s t : System) (idle idle' : List Request) (endpoint : String) : Prop where
  fresh : StartsOver (s.setEndpoint endpoint) endpoint
  fresh' : StartsOver (t.setEndpoint endpoint) endpoint
  /-- Actions that are the same but for the past of either have the same results, and both clients
  agree afterwards. -/
  same : ∀ xs ys : List Action,
    (s.base idle).leavesPast (s.setEndpoint endpoint) xs = true →
    (t.base idle').leavesPast (t.setEndpoint endpoint) ys = true →
    xs.filterMap (s.base idle).action? = ys.filterMap (t.base idle').action? →
    Agree (s.base idle) (t.base idle') ((s.setEndpoint endpoint).acts xs)
        ((t.setEndpoint endpoint).acts ys) ∧
      (s.setEndpoint endpoint).results (fun a => ((s.base idle).action? a).isSome) xs
        = (t.setEndpoint endpoint).results (fun a => ((t.base idle').action? a).isSome) ys

/-- A request on a session that is over has its answer, so it is over when it has its turn. -/
theorem Live.over_of_disposed (live : Live s) {r : Request} (mem : r ∈ s.requests) {c : Nat}
    (waits : r.connection? = some c) (coherent : (s.connection c).Coherent)
    (gone : (s.connection c).session.disposed = true) :
    r.number ∉ (s.run (.request r.number)).requests.map Request.number := by
  have attends := live.attended.each r mem
  unfold Attends at attends
  unfold Request.connection? at waits
  cases stage : r.stage with
  | starting =>
      rw [stage] at waits
      cases waits
  | waiting d id due lines =>
      rw [stage] at waits attends
      cases waits
      obtain ⟨⟨-, known⟩, -⟩ := attends
      obtain ⟨⟨outcome, told⟩, -⟩ := known.resolve_left (by simp [coherent.drained gone])
      obtain ⟨outcome, session, resumed⟩ : ∃ outcome session,
          (s.connection c).session.resume s.now id due = (.over outcome, session) := by
        unfold Session.resume Session.collect
        cases found : (s.connection c).session.answers.lookup id with
        | none => exact absurd (List.lookup_eq_none_iff.1 found _ told) (by simp)
        | some outcome => exact ⟨outcome, _, rfl⟩
      show r.number ∉ (s.runRequest r.number).requests.map Request.number
      unfold runRequest
      rw [live.numbered.find mem]
      simp only [stage, resumed, settleRequest]
      rw [show ∀ (u : System) answer, (u.finishRequest r answer).requests = _ from
        fun u answer => congrArg Prod.fst (asking_finishRequest u r answer)]
      simp

/-- Whatever a client was doing, after it was given an endpoint it is where a client starts. -/
theorem startsOver {options : Options} (run : Reachable options s) (owned : s.owned = true)
    (lasting : s.state.destroyed = false) (endpoint : String) :
    StartsOver (s.setEndpoint endpoint) endpoint := by
  have live := (run.act (.setEndpoint endpoint)).live
  have working := run.working (by rw [System.alive, owned]; rfl) lasting
  obtain ⟨t, gone, made⟩ := setEndpoint_eq working.toTidy lasting endpoint
  have disposed (c : Nat) : ((s.setEndpoint endpoint).connection c).session.disposed = true := by
    rw [made]
    exact gone.disposed c
  have coherent (c : Nat) : ((s.setEndpoint endpoint).connection c).Coherent := by
    rw [made]
    exact (gone.calm.connection c).coherent (working.coherent c)
  refine ⟨by rw [made], by rw [made]; rfl, by rw [made]; rfl, by rw [made], by rw [made], by rw [made],
    by rw [made]; exact ⟨rfl, rfl, rfl⟩, fun r mem holds => ⟨?ready, ?ends⟩⟩
  case ready =>
    by_contra idle
    obtain ⟨c, _, _, _, -, usable, -⟩ := live.owed mem idle
    exact Bool.false_ne_true (usable.symm.trans (disposed c))
  case ends =>
    obtain ⟨c, waits⟩ := Option.isSome_iff_exists.1 holds
    exact live.over_of_disposed mem waits (coherent c) (disposed c)

/-- A client that is given a new endpoint forgets everything else: of two clients that have been
told the same it cannot be seen any more what happened to them before. -/
theorem setEndpoint_erases {options : Options} {s t : System} (left : Reachable options s)
    (right : Reachable options t) {idle idle' : List Request} (told : ToldAlike s t idle idle')
    (endpoint : String) : ErasesPast s t idle idle' endpoint := by
  have start := renews_setEndpoint left told.owned told.lasting told.unbegun endpoint
  have start' := renews_setEndpoint right told.owned' told.lasting' told.unbegun' endpoint
  -- The client without a past is one and the same for both.
  have one : blank options t idle' = blank options s idle := by
    unfold blank
    rw [told.preamble, told.snippets, told.observer, told.alike]
  rw [one] at start'
  have blankRun : Reachable options ((blank options s idle).setEndpoint endpoint) :=
    ((reachable_setUp options _ _ _).acts _).act (.setEndpoint endpoint)
  refine ⟨startsOver left told.owned told.lasting endpoint,
    startsOver right told.owned' told.lasting' endpoint, fun xs ys leaves leaves' alike => ?_⟩
  obtain ⟨done, results⟩ := start.acts (left.act (.setEndpoint endpoint)) blankRun leaves
  obtain ⟨done', results'⟩ := start'.acts (right.act (.setEndpoint endpoint)) blankRun leaves'
  rw [← alike] at done' results'
  refine ⟨⟨done.outlook done', done.isConnected.1.trans done'.isConnected.1.symm,
    fun v => (done.updateSettings v).1.trans (done'.updateSettings v).1.symm, fun used r => ?_⟩,
    results.trans results'.symm⟩
  obtain ⟨c, current⟩ := Option.isSome_iff_exists.1 used
  have used' : ((t.setEndpoint endpoint).acts ys).state.current.isSome := by
    rw [done'.current, Option.isSome_map]
    rwa [done.current, Option.isSome_map] at used
  obtain ⟨c', current'⟩ := Option.isSome_iff_exists.1 used'
  exact Bool.eq_iff_iff.2
    ((findsProvider_of_current ((left.act (.setEndpoint endpoint)).acts xs) current r).trans
      (findsProvider_of_current ((right.act (.setEndpoint endpoint)).acts ys) current' r).symm)

/-- A client that is connected, with one hover that waits for its answer and one that has not
begun. -/
def busy : System := (System.fresh .standard).acts
  [.connect "one", .run (.attempt 1), .connectorOpened 1 .opened,
    .peerFeed 0 "\x7b\"id\":1,\"result\":\x7b\"hoverProvider\":true\x7d\x7d", .run (.reader 0),
    .run (.attempt 1), .ask (.editor 1) .hover (.registered "python") "x" ⟨1, 1⟩, .run (.request 1),
    .ask (.editor 2) .hover .held "y" ⟨1, 1⟩]

/-- A client that waits before its third attempt, with a hover that has not begun. -/
def retrying : System := (System.fresh .standard).acts
  [.connect "one", .run (.attempt 1), .connectorFailed 1, .run (.pause 1), .wait 1000,
    .run (.pause 1), .run (.attempt 2), .connectorFailed 2,
    .ask (.editor 2) .hover .held "y" ⟨1, 1⟩]

/-- What is done to the former while it connects again.  The hover that was waiting is over at the
second action, and at the fourth the old connection goes away. -/
def busyOn : List Action :=
  [.run (.attempt 2), .run (.request 1), .connectorOpened 2 .opened, .peerGone 0,
    .peerFeed 1 "\x7b\"id\":1,\"result\":\x7b\"hoverProvider\":true\x7d\x7d", .run (.reader 1),
    .run (.attempt 2), .run (.request 2), .peerFeed 1 "\x7b\"id\":2,\"result\":null\x7d",
    .run (.reader 1), .run (.request 2)]

/-- What is done to the latter.  At the fifth action the pause that was given up runs in vain. -/
def retryingOn : List Action :=
  [.run (.attempt 3), .connectorOpened 3 .opened,
    .peerFeed 2 "\x7b\"id\":1,\"result\":\x7b\"hoverProvider\":true\x7d\x7d", .run (.reader 2),
    .run (.pause 2), .run (.attempt 3), .run (.request 1),
    .peerFeed 2 "\x7b\"id\":2,\"result\":null\x7d", .run (.reader 2), .run (.request 1)]

/-- One client with a session in use and one that has failed twice start alike, and go on alike in
runs in which old readers and requests still have their turn. -/
theorem busy_and_retrying_start_alike :
    ErasesPast busy retrying (busy.requests.drop 1) retrying.requests "two" ∧
      busy.state.current = some 0 ∧ retrying.state.retry.attempts = 2 ∧
      Agree (busy.base (busy.requests.drop 1)) (retrying.base retrying.requests)
        ((busy.setEndpoint "two").acts busyOn) ((retrying.setEndpoint "two").acts retryingOn) := by
  have left : Reachable .standard busy := Reachable.fresh.acts _
  have right : Reachable .standard retrying := Reachable.fresh.acts _
  have base : busy.base (busy.requests.drop 1) = ⟨0, 1, 1, 1, 0, 1, 2, [2]⟩ := by decide +kernel
  have base' : retrying.base retrying.requests = ⟨1000, 2, 2, 0, 2, 0, 1, [1]⟩ := by decide +kernel
  have hover : busy.requests.drop 1 = [⟨2, .editor 2, .hover, .held, "y", ⟨1, 1⟩, .starting⟩] := by
    decide +kernel
  have hover' : retrying.requests = [⟨1, .editor 2, .hover, .held, "y", ⟨1, 1⟩, .starting⟩] := by
    decide +kernel
  have told : ToldAlike busy retrying (busy.requests.drop 1) retrying.requests :=
    { owned := by decide +kernel
      owned' := by decide +kernel
      lasting := by decide +kernel
      lasting' := by decide +kernel
      preamble := by decide +kernel
      snippets := by decide +kernel
      observer := by decide +kernel
      unbegun := ⟨List.drop_sublist 1 _, by rw [hover]; decide⟩
      unbegun' := ⟨.refl _, by rw [hover']; decide⟩
      alike := by rw [hover, hover']; rfl }
  have erases := setEndpoint_erases left right told "two"
  refine ⟨erases, by decide +kernel, by decide +kernel, (erases.same busyOn retryingOn ?_ ?_ ?_).1⟩
  · rw [base]
    decide +kernel
  · rw [base']
    decide +kernel
  · rw [base, base']
    rfl

end System
end LanguageBridge.Client
