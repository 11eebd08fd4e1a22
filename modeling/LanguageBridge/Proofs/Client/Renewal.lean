import LanguageBridge.Proofs.Client.Renaming
import LanguageBridge.Proofs.Client.Abandoned
import LanguageBridge.Proofs.Client.Attention

/-!
# Two clients, one of which has a past

Of two clients the one has a past and the other has none, and apart from the past they are the same.
`System.Renews` says what that means: whatever runs for the one runs for the other as well, under
the name that a base gives it, and nothing else runs for the former but connections that are over,
and requests that wait on them.

Whatever is done to both keeps them so.  There is one lemma for each operation of a client, in the
order in which the operations are made of one another.

## Reading a statement

A lemma has the same shape throughout: from `Renews b p q s f` follows `Renews b p q (s.op …) (f.op
…)`, with the names of generations, connections, tokens and series moved up by the base on the left.
It is a simulation, and the operation itself is the step.

* Where an operation looks something up, a lemma says that both find the same: `find_attempt`,
  `find_pause`, `connection`, `installed_iff`, `pending`.
* Where an operation has a result, the lemma is about both result and state: `validSession`,
  `isConnected`, `notify`, `updateSettings`.
* What belongs to the past can be touched on the left alone: `updatePast`, `wakePast`,
  `recoverPast`, `requestFailedPast`.  A connection of the past is over, so nothing can follow from
  it.

## What is not compared

The agendas are compared by their clocks only.  Which job is ready when is a matter of the order in
which a scheduler has made its choices, and a run here may pick any job at any time.  The registry
of providers is not compared either: both clients register under numbers that count every set ever
made.
-/

namespace LanguageBridge.Client

/-- What has come out for the outside. -/
structure Output where
  answers : List (Nat × Editor.Answer)
  events : List Host.Event
  observed : List Editor.SignatureHelp

namespace System

/-- What has come out of a client for the outside. -/
def output (s : System) : Output := ⟨s.answers, s.events, s.observed⟩

/-- A client and one without a past that is the same apart from the past.  Since `p` has come out of
the one and `q` of the other, the same has come out of both. -/
structure Renews (b : Base) (p q : Output) (s f : System) : Prop where
  sound : b.Sound
  now : s.now = b.now + f.now
  owned : s.owned = f.owned
  options : s.state.options = f.state.options
  destroyed : s.state.destroyed = f.state.destroyed
  preamble : s.state.preamble = f.state.preamble
  snippets : s.state.snippets = f.state.snippets
  observer : s.state.observer = f.state.observer
  endpoint : s.state.endpoint = f.state.endpoint
  generation : s.state.generation = b.generation + f.state.generation
  begun : 0 < f.state.generation
  socket : s.state.socket = f.state.socket.map (b.connections + ·)
  current : s.state.current = f.state.current.map (b.connections + ·)
  /-- The last installation is a common one, or it belongs to the past. -/
  installed : s.state.installed = f.state.installed.map b.installation ∨
    f.state.installed = none ∧ ∀ i, s.state.installed = some i → i.generation ≤ b.generation
  retry : s.state.retry = b.retry f.state.retry
  checks : s.state.checks = f.state.checks.map (b.series + ·)
  task : s.state.task = f.state.task.map (b.generation + ·)
  attempts : s.attempts = f.attempts.map b.attempt
  pauses : s.pauses = f.pauses.map b.pause
  series : s.series = f.series.map b.checks
  /-- Whatever runs for the client without a past counts from one. -/
  attempted : ∀ a ∈ f.attempts, 0 < a.generation
  paused : ∀ p ∈ f.pauses, 0 < p.token
  checked : ∀ m ∈ f.series, 0 < m.id
  numbered : ∀ r ∈ f.requests, 0 < r.number
  /-- Of the requests those that do not belong to the past are common. -/
  requests : s.requests.filter (fun r => (b.number? r.number).isSome) = f.requests.map b.request
  /-- Those that do and have begun wait on connections of the past, and they are not what holds the
  client. -/
  left : ∀ r ∈ s.requests, b.number? r.number = none → ∀ c, r.connection? = some c →
    c < b.connections ∧ s.owned = true
  asked : s.asked = b.asked + (f.asked - b.idle.length)
  idle : b.idle.length ≤ f.asked
  length : s.connections.length = b.connections + f.connections.length
  connections : ∀ c, s.connections[b.connections + c]? = (f.connections[c]?).map b.connection
  /-- The connections of the past are over. -/
  past : ∀ c < b.connections,
    (s.connection c).session.disposed = true ∧ (s.connection c).link.listening = false
  sessions : s.sessions = b.sessions + f.sessions
  seriesMade : s.seriesMade = b.series + f.seriesMade
  answers : ∃ more, s.answers = p.answers ++ more ∧ f.answers = q.answers ++ more
  events : ∃ more, s.events = p.events ++ more ∧ f.events = q.events ++ more
  observed : ∃ more, s.observed = p.observed ++ more ∧ f.observed = q.observed ++ more

/-- Making jobs ready changes only the agenda. -/
theorem wakeAll_eq (s : System) (js : List Job) :
    s.wakeAll js = { s with agenda := (s.wakeAll js).agenda } := by
  rw [(Calm.wakeAll s js).rest, connections_wakeAll]

namespace Renews

variable {b : Base} {p q : Output} {s f : System} {c : Nat}

/-! ## Connections

A connection is common if it was asked for since the past ended, and otherwise it is of the past.
Common ones are the same on both sides under numbers that differ by the base.  Those of the past
are on one side only, and all that is known of them is that their sessions are over. -/

/-- A common connection has the same link and the same session. -/
theorem connection (renews : Renews b p q s f) (c : Nat) :
    (s.connection (b.connections + c)).link = (f.connection c).link ∧
      (s.connection (b.connections + c)).session = (f.connection c).session := by
  unfold System.connection
  rw [renews.connections]
  cases f.connections[c]? with
  | none => exact ⟨rfl, rfl⟩
  | some k => exact ⟨rfl, rfl⟩

/-- The links of a common connection agree, and with them what it carried. -/
theorem link (renews : Renews b p q s f) (c : Nat) :
    (s.connection (b.connections + c)).link = (f.connection c).link := (renews.connection c).1

/-- The sessions of a common connection agree, and with them who waits and what was answered. -/
theorem session (renews : Renews b p q s f) (c : Nat) :
    (s.connection (b.connections + c)).session = (f.connection c).session := (renews.connection c).2

/-- Both find the same fault with a common connection, or none. -/
theorem inspect (renews : Renews b p q s f) (c : Nat) :
    (s.connection (b.connections + c)).inspect = (f.connection c).inspect := by
  rw [Connection.inspect, renews.link, renews.session]
  rfl

/-- A common connection changed in the same way. -/
theorem update (renews : Renews b p q s f) (c : Nat) {g h : Connection → Connection}
    (same : ∀ k, g (b.connection k) = b.connection (h k)) :
    Renews b p q (s.update (b.connections + c) g) (f.update c h) := by
  refine { renews with length := ?_, connections := fun d => ?_, past := fun d past => ?_ }
  · simpa [System.update] using renews.length
  · simp only [System.update, List.getElem?_modify, renews.connections d, Nat.add_left_cancel_iff]
    cases f.connections[d]? with
    | none => rfl
    | some k =>
        by_cases own : c = d
        · simp [own, same]
        · simp [own]
  · rw [connection_update_of_ne _ _ (by omega)]
    exact renews.past d past

/-- A connection of the past that changes stays over. -/
theorem updatePast (renews : Renews b p q s f) (past : c < b.connections)
    {g : Connection → Connection} (still : ∀ k : Connection, k.session.disposed = true →
      k.link.listening = false → (g k).session.disposed = true ∧ (g k).link.listening = false) :
    Renews b p q (s.update c g) f := by
  refine { renews with length := ?_, connections := fun d => ?_, past := fun d before => ?_ }
  · simpa [System.update] using renews.length
  · simp only [System.update, List.getElem?_modify]
    rw [show (fun k => if c = b.connections + d then g k else k) = id by
      funext k
      exact if_neg (by omega), renews.connections d]
    exact id_map _
  · obtain ⟨ended, deaf⟩ := renews.past d before
    by_cases own : d = c
    · subst own
      rw [connection_update _ _ (by rw [renews.length]; omega)]
      exact still _ ended deaf
    · rw [connection_update_of_ne _ _ own]
      exact ⟨ended, deaf⟩

/-! ## Agendas

`Renews` says nothing about agendas except what time it is.  Which jobs are ready matters only to
whoever decides what runs next, and here that is the run itself.  So a job may be made ready on
one side and not on the other, and a timer armed at different times. -/

/-- Timers and readiness are nobody's concern, as long as they leave the clocks alone. -/
theorem agenda (renews : Renews b p q s f) {a e : Agenda Job} (now : a.now = s.agenda.now)
    (now' : e.now = f.agenda.now) :
    Renews b p q { s with agenda := a } { f with agenda := e } := by
  refine { renews with now := ?_ }
  show a.now = b.now + e.now
  rw [now, now']
  exact renews.now

/-- Which job is made ready on either side does not matter. -/
theorem wake (renews : Renews b p q s f) (j j' : Job) : Renews b p q (s.wake j) (f.wake j') :=
  renews.agenda (Spares.wake _ _).now (Spares.wake _ _).now

theorem wakePast (renews : Renews b p q s f) (j : Job) : Renews b p q (s.wake j) f :=
  renews.agenda (e := f.agenda) (Spares.wake _ _).now rfl

/-- Several jobs made ready on both sides need not even be as many. -/
theorem wakeAll (renews : Renews b p q s f) (js js' : List Job) :
    Renews b p q (s.wakeAll js) (f.wakeAll js') := by
  rw [wakeAll_eq s, wakeAll_eq f]
  exact renews.agenda (spares_wakeAll s js).now (spares_wakeAll f js').now

theorem wakeAllPast (renews : Renews b p q s f) (js : List Job) : Renews b p q (s.wakeAll js) f := by
  rw [wakeAll_eq s]
  exact renews.agenda (e := f.agenda) (spares_wakeAll s js).now rfl

theorem forget (renews : Renews b p q s f) (j j' : Job) :
    Renews b p q (s.forget j) (f.forget j') := renews.agenda rfl rfl

/-- Timers are armed on both sides, each at a time of its own clock. -/
theorem arm (renews : Renews b p q s f) (j j' : Job) (due due' : Nat) :
    Renews b p q (s.arm j due) (f.arm j' due') := renews.agenda rfl rfl

theorem disarm (renews : Renews b p q s f) (j j' : Job) :
    Renews b p q (s.disarm j) (f.disarm j') := renews.agenda rfl rfl

/-! ## Sessions and sockets

What is done to a common connection is done to both.  Disposing of its session wakes those who
wait on it, which are requests or attempts that are common as well. -/

/-- A common connection goes on in the same way on both sides. -/
theorem exchange (renews : Renews b p q s f) (c : Nat) (session : Session) (link : Link Message) :
    Renews b p q (s.exchange (b.connections + c) session link) (f.exchange c session link) := by
  have updated := renews.update c (g := fun k => { k with session, link })
    (h := fun k => { k with session, link }) fun _ => rfl
  unfold System.exchange
  simp only [renews.link]
  split
  · exact updated.wake _ _
  · exact updated

theorem closeSocket (renews : Renews b p q s f) (c : Nat) :
    Renews b p q (s.closeSocket (b.connections + c)) (f.closeSocket c) := by
  unfold System.closeSocket
  simp only [renews.link, renews.session]
  exact renews.exchange c _ _

/-- A common session is disposed of; those who wait on it are common as well, or nobody. -/
theorem dispose (renews : Renews b p q s f) (c : Nat) :
    Renews b p q (s.dispose (b.connections + c)) (f.dispose c) := by
  unfold System.dispose
  simp only [renews.session]
  split
  · exact renews
  · exact ((renews.update c (h := .dispose) fun _ => rfl).forget _ _).wakeAll _ _

/-- The session in use, if there is one, is common. -/
theorem disposeAny (renews : Renews b p q s f) (c : Option Nat) :
    Renews b p q (s.disposeAny (c.map (b.connections + ·))) (f.disposeAny c) := by
  cases c with
  | none => exact renews
  | some c => exact renews.dispose c

theorem closeAny (renews : Renews b p q s f) (c : Option Nat) :
    Renews b p q (s.closeAny (c.map (b.connections + ·))) (f.closeAny c) := by
  cases c with
  | none => exact renews
  | some c => exact renews.closeSocket c

/-! ## Stopping what runs

A pause, a series of checks or an attempt that stops is looked for under a token, an id or a
generation.  These differ on the two sides by what the past has used up, so that each finds its
own, and nothing that is left of the past is ever found in their place. -/

/-- The session in use is given up without being disposed of yet. -/
theorem vacate (renews : Renews b p q s f) :
    Renews b p q { s with state := { s.state with current := none } }
      { f with state := { f.state with current := none } } := { renews with current := rfl }

/-- The session in use and the socket are given up together. -/
theorem vacateAll (renews : Renews b p q s f) :
    Renews b p q { s with state := { s.state with current := none, socket := none } }
      { f with state := { f.state with current := none, socket := none } } :=
  { renews with current := rfl, socket := rfl }

/-- Both have a retry pending, under tokens that correspond, or neither has. -/
theorem pending (renews : Renews b p q s f) :
    s.state.retry.pending = f.state.retry.pending.map (b.token + ·) := by
  rw [renews.retry]
  rfl

/-- The pause of one token is given up; no two tokens of the base are confused. -/
theorem dropPause (renews : Renews b p q s f) (token : Nat) :
    Renews b p q { s with pauses := s.pauses.filter (·.token ≠ b.token + token) }
      { f with pauses := f.pauses.filter (·.token ≠ token) } :=
  { renews with
    pauses := by simp [renews.pauses, List.filter_map, Function.comp_def, Base.pause]
    paused := fun p mem => renews.paused p (List.mem_filter.1 mem).1 }

theorem stopPause (renews : Renews b p q s f) : Renews b p q s.stopPause f.stopPause := by
  unfold System.stopPause
  rw [renews.pending]
  cases f.state.retry.pending with
  | none => exact renews
  | some token => exact (renews.dropPause token).forget _ _

theorem cancelRetry (renews : Renews b p q s f) : Renews b p q s.cancelRetry f.cancelRetry := by
  have stopped := renews.stopPause
  refine { stopped with retry := ?_ }
  exact congrArg Retry.cancel stopped.retry

/-- The counts of failures are equal before and after. -/
theorem resetAttempts (renews : Renews b p q s f) : Renews b p q s.resetAttempts f.resetAttempts :=
  { renews with retry := congrArg Retry.reset renews.retry }

theorem endChecks (renews : Renews b p q s f) (id : Nat) :
    Renews b p q (s.endChecks (b.series + id)) (f.endChecks id) := by
  have fewer : Renews b p q { s with series := s.series.filter (·.id ≠ b.series + id) }
      { f with series := f.series.filter (·.id ≠ id) } :=
    { renews with
      series := by simp [renews.series, List.filter_map, Function.comp_def, Base.checks]
      checked := fun m mem => renews.checked m (List.mem_filter.1 mem).1 }
  exact fewer.forget _ _

theorem stopChecks (renews : Renews b p q s f) : Renews b p q s.stopChecks f.stopChecks := by
  unfold System.stopChecks
  rw [renews.checks]
  cases f.state.checks with
  | none => exact renews
  | some id => exact { renews.endChecks id with checks := rfl }

/-- An attempt leaves the same behind, in whatever phase it is. -/
theorem leave (renews : Renews b p q s f) (phase : Phase) :
    Renews b p q (s.leave (b.phase phase)) (f.leave phase) := by
  cases phase with
  | starting => exact renews
  | opening c => exact renews
  | handshaking c id due =>
      exact (renews.update c (h := fun k => { k with session := k.session.abandon id })
        fun _ => rfl).dispose c
  | watching c => exact renews.dispose c

/-- A common attempt is found under its generation. -/
theorem find_attempt (renews : Renews b p q s f) (generation : Nat) :
    s.attempts.find? (·.generation = b.generation + generation)
      = (f.attempts.find? (·.generation = generation)).map b.attempt := by
  simp only [renews.attempts, List.find?_map, Function.comp_def, Base.attempt,
    Nat.add_left_cancel_iff]

/-- The attempt of a generation ends, which both have or neither. -/
theorem endAttempt (renews : Renews b p q s f) (generation : Nat) :
    Renews b p q (s.endAttempt (b.generation + generation)) (f.endAttempt generation) := by
  unfold System.endAttempt
  rw [renews.find_attempt]
  cases f.attempts.find? (·.generation = generation) with
  | none => exact renews
  | some a =>
      have fewer : Renews b p q
          { s with attempts := s.attempts.filter (·.generation ≠ b.generation + generation) }
          { f with attempts := f.attempts.filter (·.generation ≠ generation) } :=
        { renews with
          attempts := by simp [renews.attempts, List.filter_map, Function.comp_def, Base.attempt]
          attempted := fun a mem => renews.attempted a (List.mem_filter.1 mem).1 }
      exact (fewer.forget _ _).leave a.phase

/-- The attempt that is under way stops on both sides. -/
theorem stopAttempt (renews : Renews b p q s f) : Renews b p q s.stopAttempt f.stopAttempt := by
  unfold System.stopAttempt
  rw [renews.task]
  cases f.state.task with
  | none => exact renews
  | some generation =>
      -- The state is taken from before the end of the attempt, which leaves it alone.
      have ended := renews.endAttempt generation
      have stopped : Renews b p q
          { s.endAttempt (b.generation + generation) with
            state := { (s.endAttempt (b.generation + generation)).state with task := none } }
          { f.endAttempt generation with
            state := { (f.endAttempt generation).state with task := none } } :=
        { ended with task := rfl }
      rwa [state_endAttempt, state_endAttempt] at stopped

/-! ## Retrying and connecting

Here names are given out: tokens to retries, generations to attempts.  Either side takes the next
one of its own count, so the two new names correspond again.  How long a retry waits depends on
the count of failures, and that is the same on both sides. -/

/-- A retry is armed in a way that depends on tokens only through their order of issue.  Both ways
of the client are of that kind. -/
theorem armRetry (renews : Renews b p q s f) {how : Retry → Retry.Armed × Retry}
    (same : ∀ r, how (b.retry r) = (⟨b.token + (how r).1.token, (how r).1.delay⟩, b.retry (how r).2))
    (armed : ∀ r, 0 < (how r).1.token) :
    Renews b p q (s.armRetry how) (f.armRetry how) := by
  have stopped := renews.stopPause
  obtain ⟨told, kept⟩ := Prod.ext_iff.1 ((congrArg how stopped.retry).trans (same _))
  have more : Renews b p q
      { s.stopPause with
        state := { s.stopPause.state with retry := (how s.stopPause.state.retry).2 }
        pauses := s.stopPause.pauses ++ [⟨(how s.stopPause.state.retry).1.token,
          (how s.stopPause.state.retry).1.delay, none⟩] }
      { f.stopPause with
        state := { f.stopPause.state with retry := (how f.stopPause.state.retry).2 }
        pauses := f.stopPause.pauses ++ [⟨(how f.stopPause.state.retry).1.token,
          (how f.stopPause.state.retry).1.delay, none⟩] } :=
    { stopped with
      retry := kept
      pauses := by simp [stopped.pauses, told, Base.pause]
      paused := fun p mem => by
        rcases List.mem_append.1 mem with old | new
        · exact stopped.paused p old
        · rw [List.mem_singleton.1 new]
          exact armed _ }
  exact more.wake _ _

/-- The counting retry: both have failed as often, so both wait as long. -/
theorem armBackoff (renews : Renews b p q s f) :
    Renews b p q (s.armRetry Retry.scheduleBackoff) (f.armRetry Retry.scheduleBackoff) :=
  renews.armRetry (fun _ => rfl) fun _ => Nat.succ_pos _

/-- The forced retry: both have an endpoint, and the same, or neither. -/
theorem reconnectSoon (renews : Renews b p q s f) : Renews b p q s.reconnectSoon f.reconnectSoon := by
  unfold System.reconnectSoon
  rw [renews.destroyed, renews.endpoint]
  split
  · exact renews
  · exact renews.armRetry (fun _ => rfl) fun _ => Nat.succ_pos _

/-- A connection is lost on both sides, or both know better by now. -/
theorem lost (renews : Renews b p q s f) (generation : Nat) :
    Renews b p q (s.lost (b.generation + generation)) (f.lost generation) := by
  have stopped := renews.vacateAll.stopChecks
  unfold System.lost
  by_cases newest : f.state.generation = generation
  · rw [if_neg (not_not_intro (newest ▸ renews.generation)), if_neg (not_not_intro newest)]
    simp only [renews.current, stopped.destroyed]
    split
    · exact stopped.disposeAny _
    · exact stopped.armBackoff.disposeAny _
  · rw [if_pos (by rw [renews.generation]; simpa using newest), if_pos newest]
    exact renews

/-- An attempt starts under the generation that is the newest on either side. -/
theorem startAttempt (renews : Renews b p q s f) (endpoint : String) :
    Renews b p q (s.startAttempt endpoint) (f.startAttempt endpoint) := by
  have more : Renews b p q
      { s with
        state := { s.state with task := some s.state.generation }
        attempts := s.attempts ++ [⟨s.state.generation, endpoint, .starting⟩] }
      { f with
        state := { f.state with task := some f.state.generation }
        attempts := f.attempts ++ [⟨f.state.generation, endpoint, .starting⟩] } :=
    { renews with
      task := congrArg some renews.generation
      attempts := by simp [renews.attempts, renews.generation, Base.attempt, Base.phase]
      attempted := fun a mem => by
        rcases List.mem_append.1 mem with old | new
        · exact renews.attempted a old
        · rw [List.mem_singleton.1 new]
          exact renews.begun }
  exact more.wake _ _

theorem giveUp (renews : Renews b p q s f) : Renews b p q s.giveUp f.giveUp := by
  unfold System.giveUp
  simp only [renews.current, renews.socket]
  exact (renews.vacateAll.disposeAny _).closeAny _

/-- **Connecting.**  Both go on to a new generation, and stop everything that was there. -/
theorem connect (renews : Renews b p q s f) (endpoint : String) :
    Renews b p q (s.connect endpoint) (f.connect endpoint) := by
  unfold System.connect
  rw [renews.destroyed]
  split
  · exact renews
  · have next : Renews b p q
        { s with state := { s.state with
          generation := s.state.generation + 1, endpoint := some endpoint } }
        { f with state := { f.state with
          generation := f.state.generation + 1, endpoint := some endpoint } } :=
      { renews with
        generation := congrArg (· + 1) renews.generation
        begun := Nat.succ_pos _
        endpoint := rfl }
    exact next.cancelRetry.stopAttempt.stopChecks.giveUp.startAttempt endpoint

/-- Another endpoint is connected to from the start. -/
theorem setEndpoint (renews : Renews b p q s f) (endpoint : String) :
    Renews b p q (s.setEndpoint endpoint) (f.setEndpoint endpoint) := by
  unfold System.setEndpoint
  rw [renews.destroyed]
  split
  · exact renews
  · have reset := renews.cancelRetry.resetAttempts
    simp only [renews.current]
    exact (reset.vacate.disposeAny _).connect endpoint

/-! ## The end -/

theorem unregister (renews : Renews b p q s f) : Renews b p q s.unregister f.unregister :=
  { renews with }

/-- Both are destroyed, or both have been destroyed before. -/
theorem destroy (renews : Renews b p q s f) : Renews b p q s.destroy f.destroy := by
  unfold System.destroy
  rw [renews.destroyed]
  split
  · exact renews
  · have next : Renews b p q
        { s with state := { s.state with
          destroyed := true, generation := s.state.generation + 1, observer := none } }
        { f with state := { f.state with
          destroyed := true, generation := f.state.generation + 1, observer := none } } :=
      { renews with
        destroyed := rfl
        generation := congrArg (· + 1) renews.generation
        begun := Nat.succ_pos _
        observer := rfl }
    exact next.cancelRetry.stopAttempt.stopChecks.unregister.giveUp

/-! ## Being held

A client is there as long as its owner or a request holds it.  Requests of the past hold one of
the two only, which is why the owner may not let go while there are any. -/

/-- Either client is there as long as the other is. -/
theorem alive (renews : Renews b p q s f) : s.alive = f.alive := by
  have common : f.requests.any (fun r => r.connection?.isSome)
      = (s.requests.filter fun r => (b.number? r.number).isSome).any
          fun r => r.connection?.isSome := by
    rw [renews.requests, List.any_map]
    simp only [Function.comp_def, Base.connection?_request, Option.isSome_map]
  unfold System.alive
  rw [renews.owned, common, List.any_filter]
  cases owned : f.owned with
  | true => rfl
  | false =>
      -- Without its owner a client is not held by requests of the past.
      rw [Bool.eq_iff_iff]
      simp only [Bool.false_or, List.any_eq_true, Bool.and_eq_true, Option.isSome_iff_exists]
      refine exists_congr fun r => and_congr_right fun mem => ⟨?_, And.right⟩
      rintro ⟨c, waits⟩
      refine ⟨Option.ne_none_iff_exists'.1 fun past => ?_, c, waits⟩
      rw [renews.owned.symm.trans (renews.left r mem past c waits).2] at owned
      cases owned

theorem release (renews : Renews b p q s f) : Renews b p q s.release f.release := by
  unfold System.release
  rw [renews.alive]
  split
  · exact renews
  · exact { renews.cancelRetry.stopChecks.unregister with
      current := rfl, socket := rfl, task := rfl }

/-- A client is let go of when no requests of the past hold it. -/
theorem disown (renews : Renews b p q s f)
    (free : ∀ r ∈ s.requests, b.number? r.number = none → r.connection? = none) :
    Renews b p q s.disown f.disown := by
  have unowned : Renews b p q { s with owned := false } { f with owned := false } :=
    { renews with
      owned := rfl
      left := fun r mem past c waits => by simp [free r mem past] at waits }
  exact unowned.release

/-! ## Stale sessions

Whether a session is stale can be told from its connection, and what is done about it from whether
it is the session in use or the last one installed.  A session of the past is neither. -/

/-- The last installation was the present one on a common connection, or it was not. -/
theorem installed_iff (renews : Renews b p q s f) (c : Nat) :
    s.state.installed = some ⟨b.connections + c, s.state.generation⟩
      ↔ f.state.installed = some ⟨c, f.state.generation⟩ := by
  rcases renews.installed with common | ⟨none, past⟩
  · rw [common, renews.generation]
    cases f.state.installed with
    | none => simp
    | some i => cases i; simp [Base.installation]
  · rw [none]
    refine iff_of_false (fun own => ?_) (Option.some_ne_none _).symm
    have before := past _ own
    have begun := renews.begun
    simp only [renews.generation] at before
    omega

/-- A common session that is stale is dropped, unless it was replaced on both sides. -/
theorem recover (renews : Renews b p q s f) (c : Nat) :
    Renews b p q (s.recover (b.connections + c)) (f.recover c) := by
  unfold System.recover
  rw [renews.current]
  cases f.state.current with
  | some d =>
      simp only [Option.map_some, Nat.add_left_cancel_iff]
      split
      · exact (renews.vacate.dispose c).reconnectSoon
      · exact renews
  | none =>
      simp only [Option.map_none, renews.installed_iff]
      split
      · exact renews.reconnectSoon
      · exact renews

/-- Nothing is recovered on account of the past. -/
theorem recoverPast (renews : Renews b p q s f) (past : c < b.connections) : s.recover c = s := by
  unfold System.recover
  rw [renews.current]
  cases f.state.current with
  | some d => exact if_neg (show b.connections + d ≠ c by omega)
  | none =>
      -- The last installation is on a newer connection, or of an older generation than the present one.
      refine if_neg fun own => ?_
      rcases renews.installed with common | ⟨-, before⟩
      · rw [common, Option.map_eq_some_iff] at own
        obtain ⟨i, -, same⟩ := own
        have connection := congrArg Installation.connection same
        simp only [Base.installation] at connection
        omega
      · have begun := renews.begun
        have old := before _ own
        simp only [renews.generation] at old
        omega

/-- Both have a valid session, and the same, or both drop a stale one. -/
theorem validSession (renews : Renews b p q s f) :
    ∃ t u, Renews b p q t u ∧
      (s.validSession = (none, t) ∧ f.validSession = (none, u) ∨
        ∃ c, s.validSession = (some (b.connections + c), t) ∧ f.validSession = (some c, u)) := by
  unfold System.validSession
  rw [renews.current]
  cases f.state.current with
  | none => exact ⟨s, f, renews, .inl ⟨rfl, rfl⟩⟩
  | some c =>
      simp only [Option.map_some, renews.inspect]
      split
      · exact ⟨s, f, renews, .inr ⟨c, rfl, rfl⟩⟩
      · exact ⟨_, _, renews.recover c, .inl ⟨rfl, rfl⟩⟩

/-- A failure on a common connection leads to the same recovery. -/
theorem requestFailed (renews : Renews b p q s f) (c : Nat) (e : Failure) :
    Renews b p q (s.requestFailed (b.connections + c) e) (f.requestFailed c e) := by
  unfold System.requestFailed
  split
  · exact renews.recover c
  · exact renews

/-- A failure on a connection of the past leads to nothing: its session is neither in use nor
installed in the present generation. -/
theorem requestFailedPast (renews : Renews b p q s f) (past : c < b.connections) (e : Failure) :
    s.requestFailed c e = s := by
  unfold System.requestFailed
  rw [renews.recoverPast past, ite_self]

/-- Both health checks come to the same conclusion. -/
theorem checkHealth (renews : Renews b p q s f) :
    Renews b p q s.checkHealth f.checkHealth := by
  obtain ⟨t, u, checked, ⟨left, right⟩ | ⟨c, left, right⟩⟩ := renews.validSession
  all_goals
    unfold System.checkHealth
    simp only [left, right]
  · exact checked
  · simp only [checked.link]
    split
    · exact checked
    · exact checked.reconnectSoon

theorem isConnected (renews : Renews b p q s f) :
    s.isConnected.1 = f.isConnected.1 ∧ Renews b p q s.isConnected.2 f.isConnected.2 := by
  obtain ⟨t, u, checked, ⟨left, right⟩ | ⟨c, left, right⟩⟩ := renews.validSession
  all_goals
    unfold System.isConnected
    simp only [left, right]
  · exact ⟨trivial, checked⟩
  · exact ⟨congrArg Link.isOpen (checked.link c), checked⟩

/-- A message is sent on both sides or fails for the same reason. -/
theorem notify (renews : Renews b p q s f) (c : Nat) (m : Message) :
    (s.notify (b.connections + c) m).1 = (f.notify c m).1 ∧
      Renews b p q (s.notify (b.connections + c) m).2 (f.notify c m).2 := by
  unfold System.notify
  simp only [renews.link, renews.session]
  split
  · exact ⟨rfl, renews.requestFailed c _⟩
  · exact ⟨rfl, renews.exchange c _ _⟩

/-- New settings reach the server on both sides or on neither. -/
theorem updateSettings (renews : Renews b p q s f) (settings : Json) :
    (s.updateSettings settings).1 = (f.updateSettings settings).1 ∧
      Renews b p q (s.updateSettings settings).2 (f.updateSettings settings).2 := by
  obtain ⟨t, u, checked, valid⟩ := renews.validSession
  unfold System.updateSettings
  rw [renews.destroyed]
  split
  · exact ⟨rfl, renews⟩
  · rcases valid with ⟨left, right⟩ | ⟨c, left, right⟩
    · rw [left, right]
      exact ⟨rfl, checked⟩
    · rw [left, right]
      exact checked.notify c _

/-! ## Pauses, health checks and readers

Clocks differ by a constant.  A delay that is the same therefore ends at corresponding times, and
a check is due for both or for neither. -/

/-- The connection that a retry makes. -/
theorem reconnect (renews : Renews b p q s f) :
    Renews b p q
      (match s.state.endpoint with
        | none => s
        | some endpoint => s.connect endpoint)
      (match f.state.endpoint with
        | none => f
        | some endpoint => f.connect endpoint) := by
  rw [renews.endpoint]
  split
  · exact renews
  · exact renews.connect _

/-- The pause of a retry is over: both claim the slot or neither does. -/
theorem endPause (renews : Renews b p q s f) (token : Nat) :
    Renews b p q (s.endPause (b.token + token)) (f.endPause token) := by
  have dropped := renews.dropPause token
  have claimed (u : System) (t : Nat) (pending : u.state.retry.pending = some t) :
      u.state.retry.claim t = (true, u.state.retry.cancel) := by
    rw [Retry.claim, if_pos pending]
    rfl
  have held (u : System) (pauses : List Pause) : ({ u with pauses } : System).alive = u.alive := rfl
  by_cases pending : f.state.retry.pending = some token
  · have cancelled : Renews b p q
        { s with
          pauses := s.pauses.filter (·.token ≠ b.token + token)
          state := { s.state with retry := s.state.retry.cancel } }
        { f with
          pauses := f.pauses.filter (·.token ≠ token)
          state := { f.state with retry := f.state.retry.cancel } } :=
      { dropped with retry := congrArg Retry.cancel dropped.retry }
    unfold System.endPause
    simp only [claimed s _ (by rw [renews.pending, pending]; rfl), claimed f _ pending, held,
      renews.alive]
    split
    · exact dropped
    · exact cancelled.reconnect
  · rw [endPause_of_ne pending, endPause_of_ne]
    · exact dropped
    · rw [renews.pending]
      cases other : f.state.retry.pending with
      | none => exact (Option.some_ne_none _).symm
      | some t =>
          simp only [Option.map_some, ne_eq, Option.some.injEq, Nat.add_left_cancel_iff]
          rintro rfl
          exact pending other

/-- A common pause is found under its token. -/
theorem find_pause (renews : Renews b p q s f) (token : Nat) :
    s.pauses.find? (·.token = b.token + token)
      = (f.pauses.find? (·.token = token)).map b.pause := by
  simp only [renews.pauses, List.find?_map, Function.comp_def, Base.pause,
    Nat.add_left_cancel_iff]

/-- A pause begins with the same delay on clocks that differ by the base, so it ends at the same
time. -/
theorem runPause (renews : Renews b p q s f) (token : Nat) :
    Renews b p q (s.runPause (b.token + token)) (f.runPause token) := by
  unfold System.runPause
  rw [renews.find_pause]
  cases f.pauses.find? (·.token = token) with
  | none => exact renews
  | some pause =>
      obtain ⟨own, delay, due⟩ := pause
      simp only [Option.map_some, Base.pause, renews.now]
      cases due with
      | some due =>
          simp only [Option.map_some, Nat.add_le_add_iff_left]
          split
          · exact renews.endPause token
          · exact renews
      | none =>
          simp only [Option.map_none, Duration.dueAt_add, Nat.add_le_add_iff_left]
          split
          · exact renews.endPause token
          · have begun : Renews b p q
                { s with pauses := s.pauses.map fun (p : Pause) =>
                  if p.token = b.token + token then
                    { p with due := some (b.now + Duration.dueAt f.now delay) } else p }
                { f with pauses := f.pauses.map fun (p : Pause) =>
                  if p.token = token then { p with due := some (Duration.dueAt f.now delay) }
                  else p } :=
              { renews with
                pauses := by
                  simp only [renews.pauses, List.map_map]
                  refine List.map_congr_left fun p _ => ?_
                  simp only [Function.comp_apply, Base.pause, Nat.add_left_cancel_iff]
                  split <;> rfl
                paused := fun p mem => by
                  obtain ⟨old, known, rfl⟩ := List.mem_map.1 mem
                  have positive := renews.paused old known
                  split <;> exact positive }
            exact begun.arm _ _ _ _

/-- A series goes on, counted from the start of the client it belongs to. -/
theorem setMonitor (renews : Renews b p q s f) (id : Nat) (monitor : Monitor) :
    Renews b p q (s.setMonitor (b.series + id) (b.monitor monitor)) (f.setMonitor id monitor) :=
  { renews with
    series := by
      simp only [System.setMonitor, renews.series, List.map_map]
      refine List.map_congr_left fun m _ => ?_
      simp only [Function.comp_apply, Base.checks, Nat.add_left_cancel_iff]
      split <;> rfl
    checked := fun m mem => by
      obtain ⟨old, known, rfl⟩ := List.mem_map.1 mem
      have positive := renews.checked old known
      split <;> exact positive }

/-- A check is due at the same time on both clocks, and finds the same. -/
theorem runChecks (renews : Renews b p q s f) (id : Nat) :
    Renews b p q (s.runChecks (b.series + id)) (f.runChecks id) := by
  have found : s.series.find? (·.id = b.series + id)
      = (f.series.find? (·.id = id)).map b.checks := by
    simp only [renews.series, List.find?_map, Function.comp_def, Base.checks,
      Nat.add_left_cancel_iff]
  unfold System.runChecks
  rw [found]
  cases f.series.find? (·.id = id) with
  | none => exact renews
  | some m =>
      cases begun : m.monitor.start with
      | none =>
          simp only [Option.map_some, Base.checks, begun, renews.now,
            show (b.monitor m.monitor).start = none from congrArg (Option.map _) begun]
          exact (renews.setMonitor id (m.monitor.begin f.now)).arm _ _ _ _
      | some start =>
          simp only [Option.map_some, Base.checks, begun, Base.monitor_nextDue begun, renews.now,
            show (b.monitor m.monitor).start = some (b.now + start) from
              congrArg (Option.map _) begun,
            Nat.add_lt_add_iff_left, renews.alive, renews.destroyed]
          split
          · exact renews
          · split
            · exact renews.endChecks id
            · exact (renews.checkHealth.setMonitor id m.monitor.checked).arm _ _ _ _

/-- The same texts are read on both sides, so the same callers are told. -/
theorem runReader (renews : Renews b p q s f) (c : Nat) :
    Renews b p q (s.runReader (b.connections + c)) (f.runReader c) := by
  unfold System.runReader
  simp only [renews.link, renews.session]
  split
  · exact renews
  · split
    · exact (renews.exchange c _ _).wakeAll _ _
    · exact (((renews.exchange c _ _).wakeAll _ _).exchange c _ _).wakeAll _ _

end Renews

end System
end LanguageBridge.Client
