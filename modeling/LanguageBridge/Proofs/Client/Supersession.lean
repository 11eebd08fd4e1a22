import LanguageBridge.Proofs.Client.Generations

/-!
# Superseded connections are inert

A connection is superseded by any newer generation, whether that one has installed its session or
not.  From then on its attempt does not run any more.  But its connector may still answer, the
handshake may still be in flight, its socket may close, requests may still wait on its session, and
the pause of a retry that has been cancelled may be over all the same.  Nothing of that concerns the
client.

The attempt and the pause of an older generation are aborted when the newer one starts.  The
statements here do not rely on that alone: `lagging` puts an attempt back that goes on as if it had
not been aborted, wherever it was, and `overdue` a pause, and the guards of the client alone turn
away whatever they report.

## Main definitions

* `Only own s t`: the agenda and one connection have changed.  It is what the operations of an
  aborted attempt do, and it is closed under them.
* `Unmoved own s t`: nothing has happened to the client, to what runs for it, or to any other
  connection.  This is the conclusion that is drawn for everything superseded.
* `Newer s g`: generation `g` is out of date and has no attempt left.  `Passed s token`: the token
  is not the pending one and has no pause left.  Both hold in every reachable state (`newer_of_lt`,
  `passed_of_ne`), also after the client was let go or destroyed.
* `Replaced c s`: the session of `c` is neither in use nor the last one installed in this
  generation.

## Shape of the argument

An attempt that was aborted is looked up, found missing, and nothing happens.  An attempt that lags
is found, does something to its own connection (`Only`), and asks the client whether it is wanted;
the answer is no (`Newer.unwanted`), so it closes its connection and ends.  `superseded_is_inert`
lists what may come in, one field for each of them.
-/

namespace LanguageBridge.Client.System

variable {s t u : System} {c g : Nat}

/-! ## What is not concerned

Two relations between systems.  `Only` is for following an operation, since operations on one
connection compose; `Unmoved` is for the conclusion, since it says what has *not* happened. -/

/-- A system that differs from another in its agenda and in one connection at most. -/
structure Only (own : Option Nat) (s t : System) : Prop where
  rest : t = { s with agenda := t.agenda, connections := t.connections }
  length : t.connections.length = s.connections.length
  others : ∀ d, own ≠ some d → t.connection d = s.connection d

namespace Only

variable {own : Option Nat}

theorem refl (s : System) : Only own s s := ⟨rfl, rfl, fun _ _ => rfl⟩

theorem trans (first : Only own s t) (second : Only own t u) : Only own s u where
  rest := by
    rw [second.rest, first.rest]
  length := second.length.trans first.length
  others := fun d other => (second.others d other).trans (first.others d other)

theorem of_calm (calm : Calm s t) (others : ∀ d, own ≠ some d → t.connection d = s.connection d) :
    Only own s t :=
  ⟨calm.rest, calm.length, others⟩

theorem agenda (s : System) (agenda : Agenda Job) : Only own s { s with agenda } :=
  ⟨rfl, rfl, fun _ _ => rfl⟩

theorem wakeAll (s : System) (js : List Job) : Only own s (s.wakeAll js) :=
  .of_calm (.wakeAll s js) fun d _ => connection_wakeAll s js d

theorem update (s : System) (own_ : own = some c) (f : Connection → Connection) :
    Only own s (s.update c f) where
  rest := rfl
  length := length_update s c f
  others := by
    intro d other
    refine connection_update_of_ne s f ?_
    rintro rfl
    exact other own_

/-- Its session and link may go on, and its peer be made ready. -/
theorem exchange (s : System) (own_ : own = some c) (session : Session) (link : Link Message) :
    Only own s (s.exchange c session link) := by
  unfold System.exchange
  simp only []
  split
  · exact (update s own_ _).trans (agenda _ _)
  · exact update s own_ _

theorem closeSocket (s : System) (own_ : own = some c) : Only own s (s.closeSocket c) :=
  exchange s own_ _ _

/-- Its session may be disposed of, which wakes those who wait on it. -/
theorem dispose (s : System) (own_ : own = some c) : Only own s (s.dispose c) := by
  unfold System.dispose
  simp only []
  split
  · exact refl s
  · exact ((update s own_ _).trans (agenda _ _)).trans (wakeAll _ _)

/-- What an attempt leaves behind is its own connection. -/
theorem leave (s : System) (phase : Phase) : Only phase.connection? s (s.leave phase) := by
  cases phase with
  | starting => exact refl s
  | opening c => exact refl s
  | watching c => exact dispose s rfl
  | handshaking c id due => exact (update s rfl _).trans (dispose _ rfl)

end Only

/-- A system in which nothing has happened to the client, to what runs for it, or to any connection
but one. -/
structure Unmoved (own : Option Nat) (s t : System) : Prop where
  state : t.state = s.state
  attempts : t.attempts = s.attempts
  pauses : t.pauses = s.pauses
  series : t.series = s.series
  registry : t.registry = s.registry
  length : s.connections.length ≤ t.connections.length
  connections : ∀ d < s.connections.length, own ≠ some d → t.connection d = s.connection d

/-- Whoever has changed only one connection has moved nothing. -/
theorem Only.unmoved {own : Option Nat} (only : Only own s t) : Unmoved own s t := by
  have length := only.length
  rw [only.rest]
  exact ⟨rfl, rfl, rfl, rfl, rfl, Nat.le_of_eq length.symm, fun d _ other => only.others d other⟩

theorem Unmoved.trans {own : Option Nat} (first : Unmoved own s t) (second : Unmoved own t u) :
    Unmoved own s u where
  state := second.state.trans first.state
  attempts := second.attempts.trans first.attempts
  pauses := second.pauses.trans first.pauses
  series := second.series.trans first.series
  registry := second.registry.trans first.registry
  length := Nat.le_trans first.length second.length
  connections := by
    intro d within other
    have kept := second.connections d (Nat.lt_of_lt_of_le within first.length) other
    exact kept.trans (first.connections d within other)

/-! ## Attempts that were aborted too late

An abort reaches an attempt at the next point at which it waits.  Until then it goes on, and may
get as far as reporting its end.  So the attempt is put back into the system, whatever its phase,
and each thing that may still come of it is followed to its report. -/

/-- The system without the attempts of a generation. -/
def without (s : System) (generation : Nat) : System :=
  { s with attempts := s.attempts.filter (·.generation ≠ generation) }

/-- The system with an attempt that goes on although it has been aborted. -/
def lagging (s : System) (z : Attempt) : System := { s with attempts := s.attempts ++ [z] }

/-- What can still come of an attempt: its connector opens a connection or fails, its handshake
ends, its connection closes, or it simply goes on. -/
inductive Late (s : System) (z : Attempt) : System → Prop
  | opened (state : SocketState) : Late s z (s.connectorOpened z.generation state)
  | failed : Late s z (s.connectorFailed z.generation)
  | greeted (c : Nat) (outcome : Outcome) (own : z.phase.connection? = some c) :
      Late s z (s.finishHandshake z.generation c outcome)
  | closed : Late s z (s.finishAttempt z.generation)
  | run : Late s z (s.run (.attempt z.generation))

section Lagging

variable {z : Attempt}

/-- Attempts none of which has the generation of another one. -/
def Newer (s : System) (generation : Nat) : Prop :=
  generation < s.state.generation ∧ ∀ a ∈ s.attempts, a.generation ≠ generation

theorem Newer.filter (newer : Newer s g) : s.attempts.filter (·.generation ≠ g) = s.attempts := by
  refine List.filter_eq_self.2 fun a mem => ?_
  simpa using newer.2 a mem

theorem Newer.find_eq_none (newer : Newer s g) :
    s.attempts.find? (·.generation = g) = none := by
  rw [List.find?_eq_none]
  intro a mem
  simpa using newer.2 a mem

/-- An attempt that was put back is found, as there is no other of its generation. -/
theorem Newer.find_lagging (newer : Newer s z.generation) :
    (s.lagging z).attempts.find? (·.generation = z.generation) = some z := by
  rw [lagging, List.find?_append, newer.find_eq_none]
  simp

/-- What is left of a system with a lagging attempt, without that attempt. -/
theorem Newer.filter_lagging (newer : Newer s z.generation) {own : Option Nat}
    (only : Only own (s.lagging z) t) :
    t.attempts.filter (·.generation ≠ z.generation) = s.attempts := by
  rw [only.rest]
  show (s.attempts ++ [z]).filter _ = s.attempts
  rw [List.filter_append, newer.filter]
  simp

/-- The end of a lagging attempt touches nothing but its own connection. -/
theorem Newer.endAttempt (newer : Newer s z.generation)
    (only : Only z.phase.connection? (s.lagging z) t) :
    Only z.phase.connection? s (t.endAttempt z.generation) := by
  have found : t.attempts.find? (·.generation = z.generation) = some z := by
    rw [only.rest]
    exact newer.find_lagging
  have left := newer.filter_lagging only
  have dropped : Only z.phase.connection? s ({ t with attempts := s.attempts }.forget
      (.attempt z.generation)) := by
    refine ⟨?_, only.length, fun d other => only.others d other⟩
    rw [only.rest]
    rfl
  unfold System.endAttempt
  simp only [found, left]
  exact dropped.trans (.leave _ z.phase)

/-- So does its loss, which does not concern the client. -/
theorem Newer.finishAttempt (newer : Newer s z.generation)
    (only : Only z.phase.connection? (s.lagging z) t) :
    Only z.phase.connection? s (t.finishAttempt z.generation) := by
  have other : t.state.generation ≠ z.generation := by
    rw [only.rest]
    exact Nat.ne_of_gt newer.1
  have same : t.finishAttempt z.generation = t.endAttempt z.generation := by
    unfold System.finishAttempt
    split
    · rw [lost_of_ne other]
    · rfl
  rw [same]
  exact newer.endAttempt only

/-- **No attempt of an older generation is wanted**, whatever has happened to its connection
meanwhile. -/
theorem Newer.unwanted (newer : Newer s g) (same : t.state = s.state) : t.wanted g = false := by
  have other : t.state.generation ≠ g := by
    rw [same]
    exact Nat.ne_of_gt newer.1
  simp [wanted, other]

/-- And so does the end of its handshake, however that goes. -/
theorem Newer.finishHandshake (newer : Newer s z.generation)
    (only : Only z.phase.connection? (s.lagging z) t) (own : z.phase.connection? = some c)
    (outcome : Outcome) :
    Only z.phase.connection? s (t.finishHandshake z.generation c outcome) := by
  unfold System.finishHandshake
  simp only []
  rcases ((t.disarm (.attempt z.generation)).connection c).session.finishHandshake
    ((t.disarm (.attempt z.generation)).connection c).link outcome with ⟨result, session, link⟩
  have spoke : Only z.phase.connection? (s.lagging z)
      ((t.disarm (.attempt z.generation)).exchange c session link) :=
    (only.trans (.agenda _ _)).trans (.exchange _ own session link)
  have closed := (spoke.trans (.dispose _ own)).trans (.closeSocket _ own)
  cases result with
  | ok capabilities =>
      have unwanted : ((t.disarm (.attempt z.generation)).exchange c session link).wanted
          z.generation = false :=
        newer.unwanted (by rw [spoke.rest]; rfl)
      simp only [unwanted]
      exact newer.endAttempt closed
  | error e => exact newer.finishAttempt closed

/-- A lagging attempt that is over has left nothing but its own connection changed. -/
theorem Newer.unmoved_of_over {own : Option Nat} (newer : Newer s g) (only : Only own s t) :
    Unmoved own s (t.without g) := by
  have same : t.attempts = s.attempts := by rw [only.rest]
  have left : t.without g = t := by
    rw [without, same, newer.filter, ← same]
  rw [left]
  exact only.unmoved

/-- So it is while it goes on. -/
theorem Newer.unmoved_of_lagging {own : Option Nat} (newer : Newer s z.generation)
    (only : Only own (s.lagging z) t) : Unmoved own s (t.without z.generation) := by
  have length := only.length
  rw [without, newer.filter_lagging only, only.rest]
  exact ⟨rfl, rfl, rfl, rfl, rfl, Nat.le_of_eq length.symm, fun d _ other => only.others d other⟩

/-- Moving a lagging attempt on moves only that one. -/
theorem Newer.setPhase_lagging (newer : Newer s z.generation) (phase : Phase) :
    (s.lagging z).setPhase z.generation phase = s.lagging { z with phase } := by
  have kept : s.attempts.map (fun a : Attempt =>
      if a.generation = z.generation then { a with phase } else a) = s.attempts := by
    refine (List.map_congr_left fun a mem => ?_).trans s.attempts.map_id
    exact if_neg (newer.2 a mem)
  rw [lagging, setPhase, List.map_append, kept]
  simp [lagging]

/-- Only an attempt that waits for its connector is reached by it. -/
theorem Newer.call?_lagging (newer : Newer s z.generation) (called :
    (s.lagging z).call? z.generation = some c) : z.phase = .opening c := by
  obtain ⟨a, found, opening⟩ := call?_eq_some called
  rw [newer.find_lagging] at found
  cases found
  exact opening

/-- A lagging attempt that runs touches nothing but its own connection. -/
theorem Newer.runAttempt (newer : Newer s z.generation) :
    Unmoved z.phase.connection? s
      (((s.lagging z).runAttempt z.generation).without z.generation) := by
  have still : Unmoved z.phase.connection? s ((s.lagging z).without z.generation) :=
    newer.unmoved_of_lagging (.refl _)
  unfold System.runAttempt
  simp only [newer.find_lagging]
  split
  · -- It asks the connector: one connection more, and the others as they were.
    let more : System := { s with connections := s.connections ++ [.called z.endpoint s.now] }
    have newer' : Newer more z.generation := newer
    show Unmoved _ s (((more.lagging z).setPhase z.generation
      (.opening s.connections.length)).without z.generation)
    rw [newer'.setPhase_lagging]
    have asked := Newer.unmoved_of_lagging (z := { z with phase := .opening s.connections.length })
      newer' (.refl _ : Only z.phase.connection? _ _)
    refine ⟨asked.state, asked.attempts, asked.pauses, asked.series, asked.registry, ?_, ?_⟩
    · refine Nat.le_trans ?_ asked.length
      simp [more]
    · intro d within other
      exact (connection_append s _ d).trans (if_neg (Nat.ne_of_lt within))
  · exact still
  · -- It looks for the answer to its greeting.
    rename_i c id due handshaking
    have own : z.phase.connection? = some c := by
      rw [handshaking]
      rfl
    rcases ((s.lagging z).connection c).session.resume (s.lagging z).now id due
      with ⟨call, session⟩
    simp only []
    cases call with
    | «over» outcome =>
        exact newer.unmoved_of_over (newer.finishHandshake (.update _ own _) own outcome)
    | waiting id' due' =>
        let z' : Attempt := { z with phase := .handshaking c id' due' }
        have newer' : Newer (s.update c fun k => { k with session }) z.generation := newer
        have waits : Only z.phase.connection? (s.lagging z')
            ((s.update c fun k => { k with session }).lagging z') :=
          ⟨rfl, length_update s c _, (Only.update s own _).others⟩
        show Unmoved _ s ((((s.update c fun k => { k with session }).lagging z).setPhase
          z.generation z'.phase).without z.generation)
        rw [newer'.setPhase_lagging]
        exact Newer.unmoved_of_lagging (z := z') newer waits
  · split
    · exact newer.unmoved_of_over (newer.finishAttempt (.refl _))
    · exact still

/-- What comes of an attempt that was aborted too late concerns nothing but its own connection. -/
theorem Newer.late (newer : Newer s z.generation) (late : Late (s.lagging z) z t) :
    Unmoved z.phase.connection? s (t.without z.generation) := by
  have still : Unmoved z.phase.connection? s ((s.lagging z).without z.generation) :=
    newer.unmoved_of_lagging (.refl _)
  cases late with
  | opened state =>
      unfold System.connectorOpened
      split
      · exact still
      · rename_i c called
        have own : z.phase.connection? = some c := by
          rw [newer.call?_lagging called]
          rfl
        have closed : Only z.phase.connection? (s.lagging z)
            ((((s.lagging z).update c fun k => k.opened state).closeSocket c).update c fun k =>
              { k with link := k.link.stopListening }) :=
          ((Only.update _ own _).trans (.closeSocket _ own)).trans (.update _ own _)
        -- Nobody wants the connection, so it is closed at once and the attempt ends.
        simp only [newer.unwanted (t := s.lagging z) rfl]
        exact newer.unmoved_of_over (newer.endAttempt closed)
  | failed =>
      unfold System.connectorFailed
      split
      · exact still
      · exact newer.unmoved_of_over (newer.finishAttempt (.refl _))
  | greeted c outcome own =>
      exact newer.unmoved_of_over (newer.finishHandshake (.refl _) own outcome)
  | closed => exact newer.unmoved_of_over (newer.finishAttempt (.refl _))
  | run => exact newer.runAttempt

end Lagging

/-! ## Pauses that were aborted too late

The same for the pause before a retry.  Its report is a token, and the slot compares tokens. -/

/-- The system without the pause with a token. -/
def unpaused (s : System) (token : Nat) : System :=
  { s with pauses := s.pauses.filter (·.token ≠ token) }

/-- The system with a pause that goes on although it has been aborted. -/
def overdue (s : System) (p : Pause) : System := { s with pauses := s.pauses ++ [p] }

section Overdue

variable {p : Pause}

/-- Pauses none of which has a certain token. -/
def Passed (s : System) (token : Nat) : Prop :=
  s.state.retry.pending ≠ some token ∧ ∀ q ∈ s.pauses, q.token ≠ token

theorem Passed.filter {token : Nat} (passed : Passed s token) :
    s.pauses.filter (·.token ≠ token) = s.pauses := by
  refine List.filter_eq_self.2 fun q mem => ?_
  simpa using passed.2 q mem

/-- A pause that was put back and is given up again leaves no trace. -/
theorem Passed.unpaused (passed : Passed s p.token) : (s.overdue p).unpaused p.token = s := by
  rw [System.unpaused, overdue, List.filter_append, passed.filter]
  simp

theorem Passed.find_eq_none {token : Nat} (passed : Passed s token) :
    s.pauses.find? (·.token = token) = none := by
  rw [List.find?_eq_none]
  intro q mem
  simpa using passed.2 q mem

theorem Passed.find_overdue (passed : Passed s p.token) :
    (s.overdue p).pauses.find? (·.token = p.token) = some p := by
  rw [overdue, List.find?_append, passed.find_eq_none]
  simp

/-- A pause that is over although it has been aborted connects nothing. -/
theorem Passed.endPause (passed : Passed s p.token) : (s.overdue p).endPause p.token = s :=
  (endPause_of_ne (s := s.overdue p) passed.1).trans passed.unpaused

/-- Nor does one that begins or goes on. -/
theorem Passed.runPause (passed : Passed s p.token) :
    Unmoved none s (((s.overdue p).runPause p.token).unpaused p.token) := by
  have still : Unmoved none s ((s.overdue p).unpaused p.token) := by
    rw [passed.unpaused]
    exact (Only.refl s).unmoved
  have lapsed : Unmoved none s (((s.overdue p).endPause p.token).unpaused p.token) := by
    rw [passed.endPause, System.unpaused, passed.filter]
    exact (Only.refl s).unmoved
  unfold System.runPause
  simp only [passed.find_overdue]
  split
  · split
    · exact lapsed
    · exact still
  · split
    · exact lapsed
    · -- It only begins, which changes nothing but its own due time.
      have begun (due : Nat) : (s.overdue p).pauses.map (fun q : Pause =>
          if q.token = p.token then { q with due := some due } else q)
            = s.pauses ++ [{ p with due := some due }] := by
        have kept : s.pauses.map (fun q : Pause =>
            if q.token = p.token then { q with due := some due } else q) = s.pauses := by
          refine (List.map_congr_left fun q mem => ?_).trans s.pauses.map_id
          exact if_neg (passed.2 q mem)
        rw [overdue, List.map_append, kept]
        simp
      rw [begun]
      refine ⟨rfl, rfl, ?_, rfl, rfl, Nat.le_refl _, fun _ _ _ => rfl⟩
      show (s.pauses ++ [_]).filter _ = s.pauses
      rw [List.filter_append, passed.filter]
      simp

end Overdue

/-! ## Sessions that have been replaced

Requests hold on to the session that they were sent on.  When it fails under them they report so,
and the client has to tell whether the failure is one of the session it uses. -/

/-- A connection whose session is neither in use nor the one that the newest generation has
installed. -/
structure Replaced (c : Nat) (s : System) : Prop where
  current : s.state.current ≠ some c
  installed : s.state.installed ≠ some ⟨c, s.state.generation⟩

namespace Replaced

/-- Whether a session has been replaced is told by the state of the client. -/
theorem of_state (replaced : Replaced c s) (same : t.state = s.state) : Replaced c t where
  current := same.symm ▸ replaced.current
  installed := same.symm ▸ replaced.installed

/-- Nothing is recovered on account of a session that has been replaced. -/
theorem recover (replaced : Replaced c s) : s.recover c = s := by
  unfold System.recover
  split
  · rename_i d current
    refine if_neg ?_
    rintro rfl
    exact replaced.current current
  · exact if_neg replaced.installed

/-- A failure on a session that was replaced does not reach the client. -/
theorem requestFailed (replaced : Replaced c s) (e : Failure) : s.requestFailed c e = s := by
  unfold System.requestFailed
  split
  · exact replaced.recover
  · rfl

/-- A request on a session that was replaced gets its answer, and that is all. -/
theorem conclude (replaced : Replaced c s) (r : Request) (lines : UInt32) (outcome : Outcome) :
    Unmoved (some c) s (s.conclude r c lines outcome).2 := by
  have still : Unmoved (some c) s s := (Only.refl s).unmoved
  unfold System.conclude
  split
  · simp only [replaced.requestFailed]
    exact still
  · split
    · simp only [replaced.requestFailed]
      exact still
    · unfold observe
      split
      · exact still
      · exact ⟨rfl, rfl, rfl, rfl, rfl, Nat.le_refl _, fun _ _ _ => rfl⟩
      · exact ⟨rfl, rfl, rfl, rfl, rfl, Nat.le_refl _, fun _ _ _ => rfl⟩
    · exact still

end Replaced

/-- A request that is answered does not concern the client, unless it was the last one to hold
it. -/
theorem unmoved_finishRequest {own : Option Nat} {r : Request} {answer : Editor.Answer}
    (alive : (s.finishRequest r answer).alive = true) :
    Unmoved own s (s.finishRequest r answer) := by
  have answered : Unmoved own s (({ s with
      requests := s.requests.filter (·.number ≠ r.number) }.forget
        (.request r.number)).deliver r.origin answer) := by
    unfold deliver
    split <;> exact ⟨rfl, rfl, rfl, rfl, rfl, Nat.le_refl _, fun _ _ _ => rfl⟩
  unfold finishRequest at alive ⊢
  -- Somebody still holds the client, so its release does nothing.
  rw [alive_of_front (front_release _)] at alive
  rw [release, if_pos alive]
  exact answered

/-- A request that waited on the session when it was replaced concerns nothing but its connection,
however it ends. -/
theorem Replaced.runRequest (replaced : Replaced c s) {number id due : Nat} {lines : UInt32}
    {r : Request} (found : s.requests.find? (·.number = number) = some r)
    (waiting : r.stage = .waiting c id due lines) (alive : (s.runRequest number).alive = true) :
    Unmoved (some c) s (s.runRequest number) := by
  revert alive
  unfold System.runRequest
  simp only [found, waiting]
  rcases (s.connection c).session.resume s.now id due with ⟨call, session⟩
  have looked : Unmoved (some c) s (s.update c fun k => { k with session }) :=
    (Only.update s rfl _).unmoved
  have replaced' : Replaced c (s.update c fun k => { k with session }) := replaced.of_state rfl
  cases call with
  | «over» outcome =>
      intro alive
      have concluded := replaced'.conclude r lines outcome
      exact (looked.trans concluded).trans (unmoved_finishRequest alive)
  | waiting id' due' => exact fun _ => looked

/-! ## Connections of older generations

All of this put together for a generation that is not the newest, in any reachable state. -/

/-- A connection that nothing of the newest generation uses. -/
structure Unused (c : Nat) (s : System) : Prop extends Replaced c s where
  socket : s.state.socket ≠ some c
  attempts : ∀ a ∈ s.attempts, a.phase.connection? ≠ some c

/-- What belongs to an older generation is not used any more. -/
theorem Belongs.unused (belongs : Belongs c g s) (older : g < s.state.generation)
    (condition : Working s ∨ Quiet s) : Unused c s := by
  have installed : s.state.installed ≠ some ⟨c, s.state.generation⟩ := by
    intro own
    exact absurd (belongs.installed _ own rfl) (Nat.ne_of_gt older)
  refine ⟨⟨?_, installed⟩, ?_, ?_⟩
  · intro current
    rcases condition with working | quiet
    · exact installed (working.current c current).2.1
    · cases quiet.current.symm.trans current
  · intro holds
    exact absurd (belongs.socket holds) (Nat.ne_of_gt older)
  · intro a mem uses
    rcases condition with working | quiet
    · have newest := working.newest a mem
      exact absurd (newest.symm.trans (belongs.attempts a mem uses)) (Nat.ne_of_gt older)
    · rw [quiet.attempts] at mem
      cases mem

/-- In a reachable state an older generation has no attempt left: it was aborted by the newer
one. -/
theorem newer_of_lt (older : g < s.state.generation) (condition : Working s ∨ Quiet s) :
    Newer s g := by
  refine ⟨older, ?_⟩
  intro a mem
  rcases condition with working | quiet
  · rw [working.newest a mem]
    exact Nat.ne_of_gt older
  · rw [quiet.attempts] at mem
    cases mem

/-- In a reachable state a token that is not pending has no pause left. -/
theorem passed_of_ne {token : Nat} (stale : s.state.retry.pending ≠ some token)
    (condition : Working s ∨ Quiet s) : Passed s token := by
  refine ⟨stale, ?_⟩
  intro p mem
  rcases condition with working | quiet
  · have own : p.token ∈ s.state.retry.pending.toList := by
      rw [← working.pauses]
      exact List.mem_map_of_mem mem
    rintro rfl
    exact stale (Option.mem_toList.1 own)
  · rw [quiet.pauses] at mem
    cases mem

/-- A generation that does not concern the client any more.  Of what it has done, `early` is a
moment of the past. -/
structure Inert (early s : System) (g : Nat) : Prop where
  /-- Its attempt does not run any more. -/
  aborted : (∀ state, s.connectorOpened g state = s) ∧ s.connectorFailed g = s ∧
    s.run (.attempt g) = s
  /-- One that ran all the same would concern nothing but its own connection. -/
  lagging : ∀ z, z.generation = g → ∀ t, Late (s.lagging z) z t →
    Unmoved z.phase.connection? s (t.without g)
  /-- The connection of its attempt is none that the client still uses. -/
  attempt : ∀ z ∈ early.attempts, z.generation = g → ∀ c, z.phase.connection? = some c → Unused c s
  /-- Nor is that of its session, on which every failure is without effect. -/
  session : ∀ c, early.state.installed = some ⟨c, g⟩ →
    Unused c s ∧ s.recover c = s ∧ ∀ e, s.requestFailed c e = s
  /-- A request that still waits on its session concerns nothing but its own connection. -/
  requests : ∀ c, early.state.installed = some ⟨c, g⟩ → ∀ number r id due lines,
    s.requests.find? (·.number = number) = some r → r.stage = .waiting c id due lines →
      (s.run (.request number)).alive = true → Unmoved (some c) s (s.run (.request number))

/-- A retry that does not concern the client any more. -/
structure Expired (s : System) (token : Nat) : Prop where
  /-- Its pause does not go on any more. -/
  aborted : s.run (.pause token) = s
  /-- One that was over all the same would connect nothing, and neither would one that goes on. -/
  overdue : ∀ p, p.token = token → (s.overdue p).endPause token = s ∧
    Unmoved none s (((s.overdue p).run (.pause token)).unpaused token)

/-- What is reported for an attempt that was aborted finds nobody. -/
theorem Newer.aborted (newer : Newer s g) : (∀ state, s.connectorOpened g state = s) ∧
    s.connectorFailed g = s ∧ s.run (.attempt g) = s := by
  have uncalled : s.call? g = none := by
    rw [call?, newer.find_eq_none]
  refine ⟨?_, ?_, ?_⟩
  · intro state
    rw [connectorOpened, uncalled]
  · rw [connectorFailed, uncalled]
  · rw [run, System.runAttempt, newer.find_eq_none]

/-- A pause that was aborted does nothing, and one that was not does no more. -/
theorem Passed.expired {token : Nat} (passed : Passed s token) : Expired s token where
  aborted := by
    rw [run, System.runPause, passed.find_eq_none]
  overdue := by
    rintro p rfl
    exact ⟨passed.endPause, passed.runPause⟩

/-- At every moment of every run, no generation but the newest and no retry but the pending one
concern a client that somebody holds. -/
theorem superseded_is_inert {options : Options} {early : System} (run : Reachable options early)
    (actions : List Action) (alive : (early.acts actions).alive = true) :
    (∀ g < (early.acts actions).state.generation, Inert early (early.acts actions) g) ∧
      ∀ token, (early.acts actions).state.retry.pending ≠ some token →
        Expired (early.acts actions) token := by
  have condition := (run.acts actions).working_or_quiet alive
  have separate := run.separate (alive_of_acts alive)
  refine ⟨?_, ?_⟩
  · intro g older
    have newer := newer_of_lt older condition
    have installed : ∀ c, early.state.installed = some ⟨c, g⟩ → Unused c (early.acts actions) := by
      intro c own
      exact ((separate.belongs_of_installed own).acts run alive).unused older condition
    refine ⟨newer.aborted, ?_, ?_, ?_, ?_⟩
    · rintro z rfl t late
      exact newer.late late
    · rintro z mem rfl c uses
      exact ((separate.belongs_of_attempt mem uses).acts run alive).unused older condition
    · intro c own
      have replaced := (installed c own).toReplaced
      exact ⟨installed c own, replaced.recover, replaced.requestFailed⟩
    · intro c own number r id due lines found waiting here
      exact (installed c own).toReplaced.runRequest found waiting here
  · intro token stale
    exact (passed_of_ne stale condition).expired

/-- A client with a session in use and a request under way on it. -/
def underWay : System := (System.fresh .standard).acts
  [.connect "one", .run (.attempt 1), .connectorOpened 1 .opened,
    .peerFeed 0 "\x7b\"id\":1,\"result\":\x7b\"capabilities\":\x7b\"hoverProvider\":true\x7d\x7d\x7d",
    .run (.reader 0), .run (.attempt 1), .ask (.editor 1) .hover .held "import os" ⟨1, 1⟩,
    .run (.request 1)]

/-- Another endpoint, before anything of the newer connection has happened. -/
theorem underWay_superseded :
    underWay.state.installed = some ⟨0, 1⟩ ∧
      (underWay.acts [.setEndpoint "two"]).requests.map Request.connection? = [some 0] ∧
      Inert underWay (underWay.acts [.setEndpoint "two"]) 1 := by
  have run : Reachable .standard underWay := Reachable.fresh.acts _
  have alive : (underWay.acts [.setEndpoint "two"]).alive = true := by decide +kernel
  have older : 1 < (underWay.acts [.setEndpoint "two"]).state.generation := by decide +kernel
  obtain ⟨inert, -⟩ := superseded_is_inert run [.setEndpoint "two"] alive
  exact ⟨by decide +kernel, by decide +kernel, inert 1 older⟩

end LanguageBridge.Client.System
