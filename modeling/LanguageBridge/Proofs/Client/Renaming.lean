import LanguageBridge.Client.Run
import Mathlib.Data.List.Basic

/-!
# Renaming what runs for a client

Whatever runs for a client is told apart by numbers that were never used before: generations of
attempts, tokens of retries, series of health checks, places of connections, numbers of sessions and
of requests.  A client with a past has used some of them up, so of two clients that do the same from
some time on, one is ahead of the other in each, and its clock may be ahead as well.

A `Base` says by how much.  It moves everything that runs for a client without a past to where it is
for the one with a past, and it tells which names of the latter are still those of the past
(`Base.action?`).  Requests that were made before but have not begun by then are nobody's past yet;
the base lists those that both clients know.

## Names of both kinds

Generations, tokens and series count from one, so `Base.counted?` takes away the past and keeps what
is greater.  Connections count from zero, and `Base.placed?` differs from it in just that.  Requests
are the exception: the first ones are those that the base lists, in the order in which they were
made, and only what comes after them is renamed by addition (`Base.number`).  `Base.number?` is its
inverse as long as the list has no number twice (`Base.Sound.number?_eq_some`).

Due times are moved by the clock, and `Session.call_later` and `Session.resume_later` say that a
session does the same on either clock.
-/

namespace LanguageBridge

/-! ## Clocks -/

theorem Duration.dueAt_add (n now : Nat) (d : Duration) : dueAt (n + now) d = n + dueAt now d :=
  Nat.add_assoc n now _

namespace Session

/-- A call as it is seen by a clock that is ahead. -/
def Call.later (n : Nat) : Call → Call
  | .waiting id due => .waiting id (n + due)
  | .over outcome => .over outcome

/-- A call is made at a later time: it waits until later, and all the rest is the same. -/
theorem call_later (s : Session) (l : Link Message) (n now : Nat) (timeout : Duration)
    (method : String) (params : Json) :
    s.call l (n + now) timeout method params
      = ((s.call l now timeout method params).1.later n, (s.call l now timeout method params).2) := by
  unfold call
  split
  · rfl
  · simp only [Duration.dueAt_add, Nat.add_le_add_iff_left]
    split <;> rfl

/-- A call is looked at at a later time, with its due time as much later. -/
theorem resume_later (s : Session) (n now id due : Nat) :
    s.resume (n + now) id (n + due)
      = ((s.resume now id due).1.later n, (s.resume now id due).2) := by
  unfold resume
  split
  · rfl
  · simp only [Nat.add_le_add_iff_left]
    split <;> rfl

end Session

namespace Client

/-! ## Bases -/

/-- What a client with a past has used up, at the time from which on it is looked at. -/
structure Base where
  now : Nat
  generation : Nat
  connections : Nat
  sessions : Nat
  token : Nat
  series : Nat
  asked : Nat
  /-- The numbers of requests that have not begun and are looked at all the same. -/
  idle : List Nat
  deriving DecidableEq, Repr

namespace Base

variable (b : Base)

/-- The numbers of requests that are looked at are known. -/
structure Sound : Prop where
  distinct : b.idle.Nodup
  asked : ∀ n ∈ b.idle, n ≤ b.asked

/-! ### What runs -/

def phase : Phase → Phase
  | .starting => .starting
  | .opening c => .opening (b.connections + c)
  | .handshaking c id due => .handshaking (b.connections + c) id (b.now + due)
  | .watching c => .watching (b.connections + c)

def attempt (a : Attempt) : Attempt :=
  { a with generation := b.generation + a.generation, phase := b.phase a.phase }

def pause (p : Pause) : Pause :=
  { p with token := b.token + p.token, due := p.due.map (b.now + ·) }

def monitor (m : Monitor) : Monitor := { m with start := m.start.map (b.now + ·) }

def checks (m : Checks) : Checks := ⟨b.series + m.id, b.monitor m.monitor⟩

def connection (k : Connection) : Connection :=
  { k with calledAt := b.now + k.calledAt, number := k.number.map (b.sessions + ·) }

def installation (i : Installation) : Installation :=
  ⟨b.connections + i.connection, b.generation + i.generation⟩

def retry (r : Retry) : Retry :=
  { r with issued := b.token + r.issued, pending := r.pending.map (b.token + ·) }

/-! ### Requests -/

/-- The number of a request: first come those that had been made before. -/
def number (j : Nat) : Nat := (b.idle[j - 1]?).getD (b.asked + (j - b.idle.length))

/-- The request that a number belongs to, if it is looked at. -/
def number? (n : Nat) : Option Nat :=
  if n ∈ b.idle then some (b.idle.idxOf n + 1)
  else if n ≤ b.asked then none
  else some (n - b.asked + b.idle.length)

def stage : Stage → Stage
  | .starting => .starting
  | .waiting c id due lines => .waiting (b.connections + c) id (b.now + due) lines

def request (r : Request) : Request := { r with number := b.number r.number, stage := b.stage r.stage }

/-! ## Names of the past -/

/-- A name that counts from `one`, seen without the names of the past. -/
def counted? (past n : Nat) : Option Nat := if n ≤ past then none else some (n - past)

/-- A place that counts from `zero`, seen without the places of the past. -/
def placed? (past c : Nat) : Option Nat := if c < past then none else some (c - past)

/-- A job seen without the past; none if it belongs there. -/
def job? : Job → Option Job
  | .attempt generation => (counted? b.generation generation).map .attempt
  | .reader c => (placed? b.connections c).map .reader
  | .pause token => (counted? b.token token).map .pause
  | .checks id => (counted? b.series id).map .checks
  | .request number => (b.number? number).map .request
  | .peer c => (placed? b.connections c).map .peer
  | .parcel number => some (.parcel number)

/-- An action seen without the past; none if it is about something that belongs there. -/
def action? : Action → Option Action
  | .connect endpoint => some (.connect endpoint)
  | .setEndpoint endpoint => some (.setEndpoint endpoint)
  | .destroy => some .destroy
  | .checkConnected => some .checkConnected
  | .updateSettings settings => some (.updateSettings settings)
  | .setPreamble preamble => some (.setPreamble preamble)
  | .setSnippets snippets => some (.setSnippets snippets)
  | .setObserver observer => some (.setObserver observer)
  | .ask origin feature target text place => some (.ask origin feature target text place)
  | .disown => some .disown
  | .run job => (b.job? job).map .run
  | .wait ms => some (.wait ms)
  | .connectorFailed generation => (counted? b.generation generation).map .connectorFailed
  | .connectorOpened generation state =>
    (counted? b.generation generation).map (.connectorOpened · state)
  | .peerState c state => (placed? b.connections c).map (.peerState · state)
  | .peerFeed c text => (placed? b.connections c).map (.peerFeed · text)
  | .peerEndFeed c => (placed? b.connections c).map .peerEndFeed
  | .peerGone c => (placed? b.connections c).map .peerGone
  | .peerTake c => (placed? b.connections c).map .peerTake

variable {b}

/-- The next check of a series that has begun moves with the clock. -/
theorem monitor_nextDue {m : Monitor} {start : Nat} (begun : m.start = some start) :
    (b.monitor m).nextDue = b.now + m.nextDue := by
  unfold Monitor.nextDue monitor
  rw [begun]
  exact Duration.dueAt_add b.now start _

/-- A request waits on the same connection under its new name. -/
theorem connection?_request (r : Request) :
    (b.request r).connection? = r.connection?.map (b.connections + ·) := by
  unfold Request.connection? request stage
  cases r.stage <;> rfl

theorem counted?_map_eq_none {α : Type} {past n : Nat} {name : Nat → α} :
    (counted? past n).map name = none ↔ n ≤ past := by
  unfold counted?
  split <;> simp [*]

/-- A name that does not belong to the past comes after all of the past. -/
theorem of_counted? {α : Type} {past n : Nat} {name : Nat → α} {x : α}
    (common : (counted? past n).map name = some x) : ∃ k, n = past + k ∧ name k = x := by
  unfold counted? at common
  split at common
  · cases common
  · exact ⟨n - past, by omega, Option.some.inj common⟩

theorem placed?_map_eq_none {α : Type} {past c : Nat} {name : Nat → α} :
    (placed? past c).map name = none ↔ c < past := by
  unfold placed?
  split <;> simp [*]

theorem of_placed? {α : Type} {past c : Nat} {name : Nat → α} {x : α}
    (common : (placed? past c).map name = some x) : ∃ k, c = past + k ∧ name k = x := by
  unfold placed? at common
  split at common
  · cases common
  · exact ⟨c - past, by omega, Option.some.inj common⟩

/-- The numbers that requests go by are those that belong to them. -/
theorem Sound.number?_eq_some (sound : b.Sound) {n j : Nat} :
    b.number? n = some j ↔ 0 < j ∧ n = b.number j := by
  unfold number? number
  constructor
  · intro found
    split at found
    · rename_i mem
      cases found
      have within := List.idxOf_lt_length_of_mem mem
      refine ⟨Nat.succ_pos _, ?_⟩
      rw [Nat.add_sub_cancel, List.getElem?_eq_getElem within, List.getElem_idxOf]
      rfl
    · split at found
      · cases found
      · cases found
        refine ⟨by omega, ?_⟩
        rw [List.getElem?_eq_none (by omega)]
        simp only [Option.getD_none]
        omega
  · rintro ⟨positive, rfl⟩
    by_cases within : j - 1 < b.idle.length
    · rw [List.getElem?_eq_getElem within, Option.getD_some, if_pos (List.getElem_mem within),
        sound.distinct.idxOf_getElem]
      exact congrArg some (Nat.sub_add_cancel positive)
    · rw [List.getElem?_eq_none (by omega), Option.getD_none, if_neg, if_neg (by omega)]
      · exact congrArg some (by omega)
      · intro mem
        have known := sound.asked _ mem
        omega

/-- The numbers of common requests are told apart from those of the past. -/
theorem Sound.number?_number (sound : b.Sound) {j : Nat} (positive : 0 < j) :
    b.number? (b.number j) = some j := sound.number?_eq_some.2 ⟨positive, rfl⟩

/-- Different requests have different numbers. -/
theorem Sound.number_inj (sound : b.Sound) {j k : Nat} (hj : 0 < j) (hk : 0 < k) :
    b.number j = b.number k ↔ j = k := by
  refine ⟨fun same => ?_, congrArg _⟩
  have found := sound.number?_number hj
  rw [same, sound.number?_number hk] at found
  exact (Option.some.inj found).symm

/-- A request that is made gets the next number. -/
theorem number_next {asked : Nat} (known : b.idle.length ≤ asked) :
    b.number (asked + 1) = b.asked + (asked - b.idle.length) + 1 := by
  unfold number
  rw [List.getElem?_eq_none (by omega), Option.getD_none]
  omega

end Base
end Client
end LanguageBridge
