import LanguageBridge.Client.Attempt
import LanguageBridge.Client.Background
import LanguageBridge.Proofs.Client.Talk
import Mathlib.Tactic.ByContra

/-!
# What the compound operations do

Connecting, losing a connection, installing a session and destroying a client are each made of
several small operations.  Here each of them gets one equation that says everything it does: up to
a calm step it is a change of a few named fields.  Whoever needs to know what becomes of a client
reads it off the equation and does not open the operation again.

The equations hold for a system whose books are in order, which is `Tidy`: the only pause is the
one before the pending retry, the only health checks are those of the client, the only attempt is
the one that the client can stop, and only a session that this attempt keeps can be used.

## Main results

* `clear_eq`, `giveUp_eq`: what is left when all that runs for a client has been stopped, and when
  the session and the socket have been given up.  Both together are `GivenUp`.
* `connect_eq`, `setEndpoint_eq`, `destroy_eq`: the operations of an owner.
* `recover_eq`, `reconnectSoon_eq`, `lost_eq`, `endPause_eq`: how a client comes to retry.
* `startSession_eq`, `finishHandshake_error`, `install_eq`, `finishAttempt_eq`: the life of an
  attempt.

## Conventions

An equation names the new agenda by an existential, since which jobs are taken off it is of no
interest to anybody who only asks what the client does.  Where connections change as well, they do
so by a calm step, named `t`, and everything else is written as an update of `t`.
-/

namespace LanguageBridge.Client

namespace Phase

/-- The connection of an attempt. -/
def connection? : Phase → Option Nat
  | .starting => none
  | .opening c => some c
  | .handshaking c _ _ => some c
  | .watching c => some c

/-- Whether an attempt has still to install its session. -/
def Underway : Phase → Prop
  | .starting => True
  | .opening _ => True
  | .handshaking _ _ _ => True
  | .watching _ => False

instance : (p : Phase) → Decidable p.Underway
  | .starting => .isTrue trivial
  | .opening _ => .isTrue trivial
  | .handshaking _ _ _ => .isTrue trivial
  | .watching _ => .isFalse not_false

theorem connection_of_session {p : Phase} {c : Nat} (session : p.session? = some c) :
    p.connection? = some c := by
  cases p with
  | starting => cases session
  | opening d => cases session
  | handshaking d id due => exact session
  | watching d => exact session

end Phase

namespace System

variable {s t : System}

/-- The books of a client in order. -/
structure Tidy (s : System) : Prop where
  /-- The only pause is the one before the pending retry. -/
  pauses : s.pauses.map Pause.token = s.state.retry.pending.toList
  /-- The only health checks are those of the client. -/
  series : s.series.map Checks.id = s.state.checks.toList
  /-- The only attempt is the one that the client can stop. -/
  attempt : ∀ a ∈ s.attempts, s.attempts = [a] ∧ s.state.task = some a.generation
  /-- A session can be used only while an attempt keeps it. -/
  kept : ∀ c, (s.connection c).session.disposed = false →
    ∃ a ∈ s.attempts, a.phase.session? = some c
  coherent : ∀ c, (s.connection c).Coherent

/-! ## Stopping what runs

Each equation says what is taken off the books of the client, and that nothing else is.  Whoever
stops several things one after another composes them. -/

/-- Stopping the pause takes it away and leaves the retry pending. -/
theorem stopPause_eq (pauses : s.pauses.map Pause.token = s.state.retry.pending.toList) :
    ∃ agenda, s.stopPause = { s with agenda, pauses := [] } := by
  unfold stopPause
  cases pending : s.state.retry.pending with
  | none =>
      rw [pending, Option.toList_none, List.map_eq_nil_iff] at pauses
      exact ⟨s.agenda, by rw [← pauses]⟩
  | some token =>
      rw [pending, Option.toList_some] at pauses
      obtain ⟨p, single, own⟩ := List.map_eq_singleton_iff.1 pauses
      refine ⟨s.agenda.forget (.pause token), ?_⟩
      simp [forget, single, own]

/-- Giving up a retry takes away its pause and spends its token. -/
theorem cancelRetry_eq (pauses : s.pauses.map Pause.token = s.state.retry.pending.toList) :
    ∃ agenda, s.cancelRetry =
      { s with agenda, pauses := [], state := { s.state with retry := s.state.retry.cancel } } := by
  obtain ⟨agenda, stopped⟩ := stopPause_eq pauses
  refine ⟨agenda, ?_⟩
  rw [cancelRetry, stopped]

/-- Stopping the health checks takes away all there are. -/
theorem stopChecks_eq (series : s.series.map Checks.id = s.state.checks.toList) :
    ∃ agenda, s.stopChecks =
      { s with agenda, series := [], state := { s.state with checks := none } } := by
  unfold stopChecks
  cases checks : s.state.checks with
  | none =>
      rw [checks, Option.toList_none, List.map_eq_nil_iff] at series
      refine ⟨s.agenda, ?_⟩
      show s = { s with series := [], state := { s.state with checks := none } }
      rw [← series, ← checks]
  | some id =>
      rw [checks, Option.toList_some] at series
      obtain ⟨m, single, own⟩ := List.map_eq_singleton_iff.1 series
      refine ⟨s.agenda.forget (.checks id), ?_⟩
      simp [endChecks, forget, single, own]

/-- The only attempt of a system ended. -/
theorem endAttempt_eq {a : Attempt} (single : s.attempts = [a]) :
    ∃ t, Calm s t ∧ (∀ c, a.phase.session? = some c → (t.connection c).session.disposed = true) ∧
      s.endAttempt a.generation = { t with attempts := [] } := by
  let r := { s with attempts := [] }.forget (.attempt a.generation)
  have calm : Calm r (r.leave a.phase) := .leave r a.phase
  refine ⟨{ s with
      agenda := (r.leave a.phase).agenda, connections := (r.leave a.phase).connections },
    ⟨rfl, calm.length, calm.connection⟩, fun c session => disposed_leave r session, ?_⟩
  unfold endAttempt
  simp only [single, List.find?_singleton, decide_true, if_true]
  rw [show (List.filter (fun x : Attempt => decide (x.generation ≠ a.generation)) [a]) = [] by simp]
  exact calm.rest

theorem endAttempt_of_nil (generation : Nat) (none : s.attempts = []) :
    s.endAttempt generation = s := by
  simp [endAttempt, none]

theorem stopAttempt_eq
    (attempt : ∀ a ∈ s.attempts, s.attempts = [a] ∧ s.state.task = some a.generation) :
    ∃ t, Calm s t ∧
      (∀ a ∈ s.attempts, ∀ c, a.phase.session? = some c →
        (t.connection c).session.disposed = true) ∧
      s.stopAttempt = { t with attempts := [], state := { s.state with task := none } } := by
  cases attempts : s.attempts with
  | nil =>
      refine ⟨s, .refl s, by simp, ?_⟩
      unfold stopAttempt
      cases task : s.state.task with
      | none => simp [← attempts, ← task]
      | some generation =>
          simp only [endAttempt_of_nil generation attempts]
          rw [← attempts]
  | cons a rest =>
      obtain ⟨single, task⟩ := attempt a (by simp [attempts])
      obtain ⟨t, calm, disposed, ended⟩ := endAttempt_eq single
      refine ⟨t, calm, ?_, ?_⟩
      · intro b mem
        rw [← attempts, single, List.mem_singleton] at mem
        rw [mem]
        exact disposed
      · rw [stopAttempt, task]
        simp only [ended]

/-- The server asked to close a socket: the socket carries nothing any more. -/
theorem closing_closeSocket (s : System) (c : Nat) :
    SocketState.closing.rank ≤ ((s.closeSocket c).connection c).link.state.rank := by
  rw [closeSocket, connection_exchange]
  split
  · exact Link.closing_le_rank_close _
  · rename_i beyond
    rw [connection_of_length_le s (Nat.le_of_not_lt fun within => beyond ⟨rfl, within⟩)]
    decide

theorem giveUp_eq (s : System) :
    ∃ t, Calm s t ∧
      (∀ c, s.state.socket = some c →
        SocketState.closing.rank ≤ (t.connection c).link.state.rank) ∧
      s.giveUp = { t with state := { s.state with current := none, socket := none } } := by
  let r := { s with state := { s.state with current := none, socket := none } }
  have calm : Calm r ((r.disposeAny s.state.current).closeAny s.state.socket) :=
    (Calm.disposeAny r _).trans (.closeAny _ _)
  refine ⟨{ s with agenda := s.giveUp.agenda, connections := s.giveUp.connections },
    ⟨rfl, calm.length, calm.connection⟩, ?_, calm.rest⟩
  intro c holds
  show SocketState.closing.rank ≤
    (((r.disposeAny s.state.current).closeAny s.state.socket).connection c).link.state.rank
  rw [holds]
  exact closing_closeSocket _ c

/-- A calm step that ends every session and has the server asked to close the socket that the client
held. -/
structure GivenUp (s t : System) : Prop where
  calm : Calm s t
  disposed : ∀ c, (t.connection c).session.disposed = true
  shut : ∀ c, s.state.socket = some c →
    SocketState.closing.rank ≤ (t.connection c).link.state.rank

/-- The attempt, the pause and the health checks of a client stopped. -/
theorem clear_eq (tidy : s.Tidy) :
    ∃ t, Calm s t ∧ (∀ c, (t.connection c).session.disposed = true) ∧
      s.cancelRetry.stopAttempt.stopChecks =
        { t with
          pauses := [], series := [], attempts := []
          state := { s.state with
            retry := s.state.retry.cancel, task := none, checks := none } } := by
  obtain ⟨agenda, cancelled⟩ := cancelRetry_eq tidy.pauses
  obtain ⟨t, calm, left, stopped⟩ := stopAttempt_eq (s := s.cancelRetry) (by
    rw [cancelled]
    exact tidy.attempt)
  obtain ⟨agenda', silenced⟩ := stopChecks_eq (s := s.cancelRetry.stopAttempt) (by
    rw [stopped, calm.rest, cancelled]
    exact tidy.series)
  rw [cancelled] at calm left
  refine ⟨{ s with agenda := agenda', connections := t.connections },
    ⟨rfl, calm.length, calm.connection⟩, ?_, ?_⟩
  · -- A session that could still be used would be one that the attempt keeps.
    intro c
    by_contra usable
    have before := (calm.connection c).usable (Bool.eq_false_iff.2 usable)
    obtain ⟨a, mem, session⟩ := tidy.kept c before
    exact usable (left a mem c session)
  · rw [silenced, stopped, calm.rest, cancelled]

/-- A step that is calm from a system with some fields changed is calm from the system itself. -/
theorem Calm.of_connections {agenda : Agenda Job} {connections : List Connection}
    (length : connections.length = s.connections.length)
    (calm : ∀ c, (s.connection c).Calm (({ s with connections } : System).connection c)) :
    Calm s { s with agenda, connections } :=
  ⟨rfl, length, calm⟩

/-- Two calm steps, with other fields changed before them and between them. -/
theorem Calm.join {r u v : System} (first : Calm r t) (second : Calm u v)
    (before : s.connections = r.connections) (between : t.connections = u.connections) :
    Calm s { s with agenda := v.agenda, connections := v.connections } := by
  have start : s.connection = r.connection := by
    funext c
    unfold System.connection
    rw [before]
  have middle : t.connection = u.connection := by
    funext c
    unfold System.connection
    rw [between]
  refine .of_connections ?_ fun c => ?_
  · rw [second.length, ← between, first.length, ← before]
  · rw [start]
    exact (first.connection c).trans (middle ▸ second.connection c)

/-! ## Retrying

A retry is armed in the slot and gets a pause.  The pause that was there before is given up, so
there is one pause while a retry is pending, and none otherwise. -/

theorem armRetry_eq (pauses : s.pauses.map Pause.token = s.state.retry.pending.toList)
    (how : Retry → Retry.Armed × Retry) :
    ∃ agenda, s.armRetry how =
      { s with
        agenda
        pauses := [⟨(how s.state.retry).1.token, (how s.state.retry).1.delay, none⟩]
        state := { s.state with retry := (how s.state.retry).2 } } := by
  obtain ⟨agenda, stopped⟩ := stopPause_eq pauses
  refine ⟨agenda.wake (.pause (how s.state.retry).1.token), ?_⟩
  rw [armRetry, stopped]
  rfl

/-- A forced reconnect arms a retry in place of the one that was pending. -/
theorem reconnectSoon_eq (pauses : s.pauses.map Pause.token = s.state.retry.pending.toList)
    (kept : s.state.destroyed = false) {endpoint : String}
    (placed : s.state.endpoint = some endpoint) :
    ∃ agenda, s.reconnectSoon =
      { s with
        agenda
        pauses := [⟨s.state.retry.issued + 1, s.state.retry.forcedDelay, none⟩]
        state := { s.state with retry := s.state.retry.scheduleForced.2 } } := by
  obtain ⟨agenda, armed⟩ := armRetry_eq pauses Retry.scheduleForced
  refine ⟨agenda, ?_⟩
  rw [reconnectSoon, if_neg (by simp [kept, placed]), armed]
  rfl

/-- A stale session in use is dropped, and a reconnect after the short delay takes its place. -/
theorem recover_eq (pauses : s.pauses.map Pause.token = s.state.retry.pending.toList)
    (kept : s.state.destroyed = false) {endpoint : String}
    (placed : s.state.endpoint = some endpoint) {c : Nat} (current : s.state.current = some c) :
    ∃ t, Calm s t ∧ s.recover c =
      { t with
        pauses := [⟨s.state.retry.issued + 1, s.state.retry.forcedDelay, none⟩]
        state := { s.state with current := none, retry := s.state.retry.scheduleForced.2 } } := by
  let r := { s with state := { s.state with current := none } }
  have disposed : Calm r (r.dispose c) := .dispose r c
  have recovered : s.recover c = (r.dispose c).reconnectSoon := by
    rw [recover, current]
    exact if_pos rfl
  obtain ⟨agenda, armed⟩ := reconnectSoon_eq (s := r.dispose c) (by rwa [disposed.rest])
    (by rwa [disposed.state]) (by rw [disposed.state]; exact placed)
  refine ⟨{ s with agenda, connections := (r.dispose c).connections },
    .of_connections disposed.length disposed.connection, ?_⟩
  rw [recovered, armed, disposed.rest]

/-- Whatever there is to reconnect to, a reconnect changes nothing but the retry. -/
theorem reconnectSoon_form (s : System) :
    ∃ agenda pauses retry, s.reconnectSoon =
      { s with agenda, pauses, state := { s.state with retry } } := by
  unfold reconnectSoon
  split
  · exact ⟨s.agenda, s.pauses, s.state.retry, rfl⟩
  · unfold armRetry stopPause
    split <;> exact ⟨_, _, _, rfl⟩

theorem current_reconnectSoon (s : System) : s.reconnectSoon.state.current = s.state.current := by
  obtain ⟨agenda, pauses, retry, armed⟩ := reconnectSoon_form s
  rw [armed]

/-- A reconnect after the short delay does not count as a failed attempt. -/
theorem attempts_reconnectSoon (s : System) :
    s.reconnectSoon.state.retry.attempts = s.state.retry.attempts := by
  unfold reconnectSoon
  split
  · rfl
  · unfold armRetry stopPause
    split <;> rfl

/-- A connection that is lost costs its session, counts as a failure and arms a retry. -/
theorem lost_eq (tidy : s.Tidy) (kept : s.state.destroyed = false) :
    ∃ t, Calm s t ∧
      (∀ c, s.state.current = some c → (t.connection c).session.disposed = true) ∧
      s.lost s.state.generation =
        { t with
          pauses := [⟨s.state.retry.issued + 1,
            s.state.retry.backoff.delay s.state.retry.attempts, none⟩]
          series := []
          state := { s.state with
            current := none, socket := none, checks := none
            retry := s.state.retry.scheduleBackoff.2 } } := by
  let r := { s with state := { s.state with current := none, socket := none } }
  obtain ⟨agenda, silenced⟩ := stopChecks_eq (s := r) tidy.series
  obtain ⟨agenda', armed⟩ := armRetry_eq (s := r.stopChecks) (by
    rw [silenced]
    exact tidy.pauses) Retry.scheduleBackoff
  have calm := Calm.disposeAny (r.stopChecks.armRetry Retry.scheduleBackoff) s.state.current
  rw [armed, silenced] at calm
  have lost : s.lost s.state.generation
      = (r.stopChecks.armRetry Retry.scheduleBackoff).disposeAny s.state.current := by
    rw [lost, if_neg (by simp)]
    show System.disposeAny (if r.stopChecks.state.destroyed = true then r.stopChecks
      else r.stopChecks.armRetry Retry.scheduleBackoff) s.state.current = _
    rw [if_neg (by
      rw [silenced]
      simp [r, kept])]
  rw [lost, armed, silenced]
  refine ⟨_, Calm.of_connections (s := s) calm.length calm.connection, ?_, calm.rest⟩
  intro c current
  rw [current]
  exact disposed_dispose_self _ c

/-- The newest attempt over without success, or its connection closed. -/
theorem finishAttempt_eq (tidy : s.Tidy) (alive : s.alive = true)
    (kept : s.state.destroyed = false) {a : Attempt} (single : s.attempts = [a])
    (newest : a.generation = s.state.generation) :
    ∃ t, Calm s t ∧ (∀ c, (t.connection c).session.disposed = true) ∧
      s.finishAttempt a.generation =
        { t with
          attempts := []
          pauses := [⟨s.state.retry.issued + 1,
            s.state.retry.backoff.delay s.state.retry.attempts, none⟩]
          series := []
          state := { s.state with
            current := none, socket := none, checks := none
            retry := s.state.retry.scheduleBackoff.2 } } := by
  obtain ⟨t, calm, -, lost⟩ := lost_eq tidy kept
  obtain ⟨u, calm', left, ended⟩ := endAttempt_eq (s := s.lost s.state.generation) (a := a) (by
    rw [lost]
    exact calm.attempts.trans single)
  rw [finishAttempt, if_pos alive, newest]
  rw [newest] at ended
  rw [ended]
  rw [lost, calm.rest] at calm'
  refine ⟨{ s with agenda := u.agenda, connections := u.connections },
    calm.join calm' rfl rfl, ?_, ?_⟩
  · intro c
    by_contra usable
    have before := (calm.connection c).usable
      ((calm'.connection c).usable (Bool.eq_false_iff.2 usable))
    -- Only the attempt could have kept the session, and it has left it behind.
    obtain ⟨b, mem, session⟩ := tidy.kept c before
    rw [single, List.mem_singleton] at mem
    rw [mem] at session
    exact usable (left c session)
  · rw [calm'.rest]

/-! ## Attempts that are over

What an attempt leaves behind on its own connection is the same however it ends, so it can be said
without `Tidy`, connection by connection. -/

theorem connection_endAttempt (s : System) (generation c : Nat) :
    (s.connection c).Calm ((s.endAttempt generation).connection c) := by
  unfold endAttempt
  split
  · exact .refl _
  · rename_i a _
    let r := { s with attempts := s.attempts.filter (·.generation ≠ generation) }.forget
      (.attempt generation)
    exact (Calm.leave r a.phase).connection c

theorem connection_lost (s : System) (generation c : Nat) :
    (s.connection c).Calm ((s.lost generation).connection c) := by
  unfold lost
  split
  · exact .refl _
  · refine Connection.Calm.trans ?_ ((Calm.disposeAny _ _).connection c)
    unfold stopChecks armRetry stopPause
    split <;> split <;> first | exact .refl _ | (split <;> exact .refl _)

/-- An attempt that is over leaves no connection other than calmly behind. -/
theorem connection_finishAttempt (s : System) (generation c : Nat) :
    (s.connection c).Calm ((s.finishAttempt generation).connection c) := by
  unfold finishAttempt
  refine Connection.Calm.trans ?_ (connection_endAttempt _ generation c)
  split
  · exact connection_lost s generation c
  · exact .refl _

/-! ## Connecting

Connecting clears everything and starts one attempt.  Another endpoint is the same with the count
of failures set back. -/

/-- Everything a client has given up: what runs for it, its session and its socket. -/
theorem clear_giveUp_eq (tidy : s.Tidy) :
    ∃ t, GivenUp s t ∧
      s.cancelRetry.stopAttempt.stopChecks.giveUp =
        { t with
          pauses := [], series := [], attempts := []
          state := { s.state with
            retry := s.state.retry.cancel, task := none, checks := none
            current := none, socket := none } } := by
  obtain ⟨t, calm, disposed, cleared⟩ := clear_eq tidy
  obtain ⟨u, calm', shut, given⟩ := giveUp_eq s.cancelRetry.stopAttempt.stopChecks
  rw [given]
  rw [cleared] at calm' shut ⊢
  refine ⟨{ s with agenda := u.agenda, connections := u.connections },
    ⟨calm.join calm' rfl rfl, ?_, shut⟩, ?_⟩
  · intro c
    exact (calm'.connection c).disposed (disposed c)
  · rw [calm'.rest, calm.rest]

/-- Connecting gives up all there is and starts one attempt of a new generation. -/
theorem connect_eq (tidy : s.Tidy) (kept : s.state.destroyed = false) (endpoint : String) :
    ∃ t, GivenUp s t ∧
      s.connect endpoint =
        { t with
          pauses := [], series := []
          attempts := [⟨s.state.generation + 1, endpoint, .starting⟩]
          state := { s.state with
            generation := s.state.generation + 1, endpoint := some endpoint
            current := none, socket := none, checks := none
            retry := s.state.retry.cancel, task := some (s.state.generation + 1) } } := by
  obtain ⟨t, gone, cleared⟩ := clear_giveUp_eq (s := { s with state := { s.state with
      generation := s.state.generation + 1, endpoint := some endpoint } })
    ⟨tidy.pauses, tidy.series, tidy.attempt, tidy.kept, tidy.coherent⟩
  refine ⟨{ s with
      agenda := t.agenda.wake (.attempt (s.state.generation + 1)), connections := t.connections },
    ⟨.of_connections gone.calm.length gone.calm.connection, gone.disposed, gone.shut⟩, ?_⟩
  rw [connect, if_neg (by simp [kept])]
  simp only [cleared]
  rw [gone.calm.rest]
  rfl

theorem setEndpoint_eq (tidy : s.Tidy) (kept : s.state.destroyed = false) (endpoint : String) :
    ∃ t, GivenUp s t ∧
      s.setEndpoint endpoint =
        { t with
          pauses := [], series := []
          attempts := [⟨s.state.generation + 1, endpoint, .starting⟩]
          state := { s.state with
            generation := s.state.generation + 1, endpoint := some endpoint
            current := none, socket := none, checks := none
            retry := s.state.retry.reset.cancel, task := some (s.state.generation + 1) } } := by
  obtain ⟨agenda, cancelled⟩ := cancelRetry_eq tidy.pauses
  let r := { s with
    agenda, pauses := [], state := { s.state with
      retry := s.state.retry.cancel.reset, current := none } }
  have calm : Calm r (r.disposeAny s.state.current) := .disposeAny r _
  have tidy' : (r.disposeAny s.state.current).Tidy := by
    rw [calm.rest]
    refine ⟨rfl, tidy.series, tidy.attempt, ?_,
      fun c => (calm.connection c).coherent (tidy.coherent c)⟩
    intro c usable
    exact tidy.kept c ((calm.connection c).usable usable)
  obtain ⟨t, gone, connected⟩ := connect_eq tidy' (by
    rw [calm.state]
    exact kept) endpoint
  rw [setEndpoint, if_neg (by simp [kept])]
  simp only [cancelled]
  refine ⟨{ s with agenda := t.agenda, connections := t.connections },
    ⟨calm.join gone.calm rfl rfl, gone.disposed, ?_⟩, ?_⟩
  · intro c holds
    refine gone.shut c ?_
    rw [calm.state]
    exact holds
  · refine Eq.trans connected ?_
    rw [gone.calm.rest, calm.rest]
    rfl

/-! ## Attempts

An attempt creates things: a connection, a session on it, a greeting.  The equations name what it
creates by its place, since connections are only ever added at the end. -/

/-- The only attempt moved on to another phase. -/
theorem setPhase_eq {a : Attempt} (single : s.attempts = [a]) (phase : Phase) :
    s.setPhase a.generation phase = { s with attempts := [{ a with phase }] } := by
  rw [setPhase, single]
  simp

/-- The connections after the connector has been asked for one more. -/
theorem connection_append (s : System) (k : Connection) (c : Nat) :
    ({ s with connections := s.connections ++ [k] } : System).connection c
      = if c = s.connections.length then k else s.connection c := by
  unfold connection
  split
  · rename_i last
    simp [last]
  · rename_i other
    simp only [List.getElem?_append]
    split
    · rfl
    · rename_i beyond
      rw [List.getElem?_singleton, if_neg (by omega), List.getElem?_eq_none (by omega)]

/-- A session that has been started can be used, and of the others those that could before. -/
theorem usable_of_started {c d number : Nat} {session : Session}
    (usable : ((s.update c fun k => k.started number session).connection d).session.disposed
      = false) : d = c ∨ (s.connection d).session.disposed = false := by
  rw [connection_update_eq] at usable
  split at usable
  · rename_i same
    exact Or.inl same.1
  · exact Or.inr usable

/-- The texts of a session that has been started are read while it can be used, whatever was on its
connection before. -/
theorem coherent_started {c number : Nat} {session : Session} (usable : session.disposed = false)
    (others : ∀ d, d ≠ c → (s.connection d).Coherent) (d : Nat) :
    ((s.update c fun k => k.started number session).connection d).Coherent := by
  rw [connection_update_eq]
  split
  · refine ⟨fun _ => usable, ?_⟩
    intro ended
    cases usable.symm.trans ended
  · rename_i other
    by_cases same : d = c
    · have beyond : s.connections.length ≤ d := by
        rw [same]
        exact Nat.le_of_not_lt fun within => other ⟨same, within⟩
      -- There is no such connection, so nothing was started on it.
      rw [connection_of_length_le s beyond]
      exact Connection.coherent_called "" 0
    · exact others d same

/-- A session started on a connection, which becomes ready to be read. -/
def opening (s : System) (c : Nat) : System :=
  ({ s with sessions := s.sessions + 1 }.update c fun k =>
    k.started (s.sessions + 1) (.fresh s.state.options.languageId
      s.state.options.requestTimeout)).wake (.reader c)

theorem connection_opening (s : System) {c : Nat} (within : c < s.connections.length) :
    (s.opening c).connection c = (s.connection c).started (s.sessions + 1)
      (.fresh s.state.options.languageId s.state.options.requestTimeout) :=
  connection_update _ _ within

/-- Starting a session: the server is greeted, and the attempt waits for the answer or has
failed. -/
theorem startSession_eq (s : System) (generation c : Nat) :
    ∃ call session link,
      ((s.opening c).connection c).session.greet ((s.opening c).connection c).link
        (s.opening c).now s.state.options.handshakeTimeout 0 = (call, session, link) ∧
      s.startSession generation c =
        match call with
        | .over outcome =>
          ((s.opening c).exchange c session link).finishHandshake generation c outcome
        | .waiting id due =>
          (((s.opening c).exchange c session link).setPhase generation
            (.handshaking c id due)).arm (.attempt generation) due :=
  ⟨_, _, _, rfl, rfl⟩

/-- A call of the connector that an attempt waits for. -/
theorem call?_eq_some {generation c : Nat} (called : s.call? generation = some c) :
    ∃ a, s.attempts.find? (·.generation = generation) = some a ∧ a.phase = .opening c := by
  unfold call? at called
  split at called
  · rename_i a found
    split at called
    · rename_i d opening
      cases called
      exact ⟨a, found, opening⟩
    · cases called
    · cases called
    · cases called
  · cases called

/-- A handshake that has failed: the connection is quiet before its attempt is over. -/
theorem finishHandshake_error (s : System) (generation c : Nat) (e : Failure) :
    ∃ t, Calm s t ∧ (t.connection c).session.disposed = true ∧
      SocketState.closing.rank ≤ (t.connection c).link.state.rank ∧
      s.finishHandshake generation c (.error e) = t.finishAttempt generation := by
  have same : Calm (s.disarm (.attempt generation)) ((s.disarm (.attempt generation)).exchange c
      (s.connection c).session (s.connection c).link) := .exchange _ c (.refl _)
  have closed := Calm.closeSocket (((s.disarm (.attempt generation)).exchange c
    (s.connection c).session (s.connection c).link).dispose c) c
  refine ⟨_, (((Calm.disarm s _).trans same).trans (.dispose _ c)).trans closed, ?_,
    closing_closeSocket _ c, rfl⟩
  exact (closed.connection c).disposed (disposed_dispose_self _ c)

/-! ## Pauses -/

/-- A pause that is over but is not the one before the pending retry does nothing. -/
theorem endPause_of_ne {token : Nat} (stale : s.state.retry.pending ≠ some token) :
    s.endPause token = { s with pauses := s.pauses.filter (·.token ≠ token) } := by
  unfold endPause
  simp only [Retry.claim_of_ne stale]
  split <;> rfl

/-- The pause before the pending retry over: the client connects again. -/
theorem endPause_eq (pauses : s.pauses.map Pause.token = s.state.retry.pending.toList)
    (alive : s.alive = true) {token : Nat} (pending : s.state.retry.pending = some token) :
    s.endPause token =
      match s.state.endpoint with
      | none => { s with pauses := [], state := { s.state with retry := s.state.retry.cancel } }
      | some endpoint => ({ s with
          pauses := []
          state := { s.state with retry := s.state.retry.cancel } } : System).connect endpoint := by
  have claimed : s.state.retry.claim token = (true, s.state.retry.cancel) := by
    rw [Retry.claim, if_pos pending]
    rfl
  have spent : s.pauses.filter (·.token ≠ token) = [] := by
    rw [pending, Option.toList_some] at pauses
    obtain ⟨p, single, own⟩ := List.map_eq_singleton_iff.1 pauses
    simp [single, own]
  have here : ({ s with pauses := [] } : System).alive = true := alive
  unfold endPause
  simp only [spent, claimed]
  cases s.state.endpoint with
  | none => exact if_neg (by simp [here])
  | some endpoint => exact if_neg (by simp [here])

/-! ## Installing a session

The moment at which everything comes together: the attempt has done its work and only watches from
now on, and the providers, the health checks and the session in use are all of one installation. -/

/-- An installation registers the providers, starts the health checks and sets the count back. -/
theorem install_eq (tidy : s.Tidy) (generation c : Nat) :
    ∃ agenda, s.install generation c =
      { s with
        agenda
        pauses := []
        series := [⟨s.seriesMade + 1, .fresh s.state.options.healthInterval⟩]
        seriesMade := s.seriesMade + 1
        providersMade := s.providersMade + 1
        registry := (s.registry.registerAll s.state.options.languageId
          (s.providersMade + 1)).2.disposeAll s.state.handles
        attempts := s.attempts.map fun a =>
          if a.generation = generation then { a with phase := .watching c } else a
        state := { s.state with
          current := some c, installed := some ⟨c, generation⟩
          retry := s.state.retry.cancel.reset, checks := some (s.seriesMade + 1)
          handles := (s.registry.registerAll s.state.options.languageId
            (s.providersMade + 1)).1 } } := by
  obtain ⟨agenda, cancelled⟩ := cancelRetry_eq tidy.pauses
  let r := { s with
    agenda, pauses := [], state := { s.state with
      retry := s.state.retry.cancel.reset
      current := some c, installed := some ⟨c, generation⟩ } }
  obtain ⟨agenda', silenced⟩ := stopChecks_eq (s := r) tidy.series
  refine ⟨agenda'.wake (.checks (s.seriesMade + 1)), ?_⟩
  rw [install]
  simp only [cancelled]
  show ((System.stopChecks r).startChecks.renewProviders).setPhase generation (.watching c) = _
  rw [silenced]
  rfl

/-! ## The end -/

/-- Destruction gives up all there is and leaves the client without an endpoint. -/
theorem destroy_eq (tidy : s.Tidy) (kept : s.state.destroyed = false) :
    ∃ t, GivenUp s t ∧
      s.destroy =
        { t with
          pauses := [], series := [], attempts := []
          registry := s.registry.disposeAll s.state.handles
          state := { s.state with
            destroyed := true, generation := s.state.generation + 1, observer := none
            current := none, socket := none, checks := none, handles := []
            retry := s.state.retry.cancel, task := none } } := by
  obtain ⟨t, calm, disposed, cleared⟩ := clear_eq (s := { s with state := { s.state with
      destroyed := true, generation := s.state.generation + 1, observer := none } })
    ⟨tidy.pauses, tidy.series, tidy.attempt, tidy.kept, tidy.coherent⟩
  rw [destroy, if_neg (by simp [kept])]
  simp only [cleared]
  rw [calm.rest]
  obtain ⟨u, calm', shut, given⟩ := giveUp_eq (System.unregister { s with
    agenda := t.agenda, connections := t.connections
    pauses := [], series := [], attempts := []
    state := { s.state with
      destroyed := true, generation := s.state.generation + 1, observer := none
      retry := s.state.retry.cancel, task := none, checks := none } })
  refine ⟨{ s with agenda := u.agenda, connections := u.connections },
    ⟨calm.join calm' rfl rfl, ?_, shut⟩, ?_⟩
  · intro c
    exact (calm'.connection c).disposed (disposed c)
  · refine Eq.trans given ?_
    rw [calm'.rest]
    rfl

end System
end LanguageBridge.Client
