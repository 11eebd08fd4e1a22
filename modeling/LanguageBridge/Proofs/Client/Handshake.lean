import LanguageBridge.Proofs.Client.Advance
import Mathlib.Data.List.Induction

/-!
# The handshake comes first

Whatever happens to a client, every connection carries its handshake before anything else, apart
from the acknowledgements that the server asks for.  `System.handshake_first` says so of all runs
and all connections at once.

* What a connection carries is a part, from the start, of the greeting, the end of the handshake and
  everyday messages, in this order.
* The end of the handshake is sent only after the reader of the same connection has come across a
  reply to the greeting that is no error.
* A connection whose attempt has failed, has run out of time or was superseded before the session
  was in use carries the greeting at most, and nothing is ever added.
* So does every other connection whose session is never in use, unless its handshake has ended while
  the client was gone already: the end of the handshake is sent before the attempt looks for the
  client, and nothing follows it.

## States and histories

What a connection carries now is an invariant of states (`Aligned`).  That a reply was heard before,
or that a session was in use at some moment, is a property of the run, so `Heard`, `Used` and
`Orphaned` are about lists of actions.  `Recorded` ties the two together: it is proved from the end
of the run, one action at a time, and what one action contributes is collected in `Turn`.

The frames are written out in `HandshakeFirst.written`, so that nothing depends on how the messages
of the handshake are named.
-/

namespace LanguageBridge.Client.System

open Message (Ordered greeting handshakeDone)

variable {s : System} {c : Nat}

/-! ## One action -/

/-- Every attempt of a client that somebody holds is wanted. -/
theorem Reachable.wanted {options : Options} (run : Reachable options s) (alive : s.alive = true)
    {a : Attempt} (mem : a ∈ s.attempts) : s.wanted a.generation = true := by
  rcases run.working_or_quiet alive with working | quiet
  · exact working.wanted alive mem
  · rw [quiet.attempts] at mem
    cases mem

/-- What an action comes to: readers alone bring replies, and only from a reply that has come
something new is learned about a server. -/
structure Turn (s : System) (a : Action) : Prop where
  aligned : Aligned (s.act a).attempts (s.act a)
  length : s.connections.length ≤ (s.act a).connections.length
  engaged : ∀ c, c < s.connections.length → (s.act a).Engaged c → s.Engaged c
  speaks : ∀ c, Speaks s (s.act a) c
  replies : ∀ c id reply, ((s.act a).connection c).session.Replied id reply →
    (s.connection c).session.Replied id reply ∨ a = .run (.reader c) ∧ s.Receives c id reply
  informed : ∀ c, (s.connection c).session.Informed ((s.connection c).session.Replied 1)
    ((s.act a).connection c).session

theorem Advances.turn {a : Action} (advances : Advances s (s.act a)) : Turn s a :=
  ⟨advances.aligned, advances.length, advances.engaged, advances.speaks,
    fun c id reply there => .inl (advances.replies c id reply there), advances.informed⟩

/-- A reader brings the replies that it comes across, and says nothing of the client's own. -/
theorem turn_reader (aligned : Aligned s.attempts s) (c : Nat) : Turn s (.run (.reader c)) := by
  have talk := Talk.runReader s c
  refine ⟨?aligned, Nat.le_of_eq talk.length.symm, fun d _ engaged => ?engaged,
    fun d => .still (s.runReader_reads c d).said, fun d id reply there => ?replies,
    fun d => (s.runReader_reads c d).informed.mono nofun⟩
  case aligned =>
    exact aligned.same (Nat.le_of_eq talk.length.symm) (fun b mem => talk.attempts ▸ mem)
      (congrArg State.current talk.state) fun d => (s.runReader_reads c d).said
  case engaged =>
    rcases engaged with current | ⟨b, mem, own⟩
    · exact .inl (talk.state ▸ current)
    · exact .inr ⟨b, talk.attempts ▸ mem, own⟩
  case replies =>
    rcases (s.runReader_reads c d).replies id reply there with before | ⟨rfl, receives⟩
    · exact .inl before
    · exact .inr ⟨rfl, receives⟩

/-- Of the client it only has to be known that its attempts are wanted while somebody holds it. -/
theorem turn_of_wanted (aligned : Aligned s.attempts s)
    (wanted : s.alive = true → ∀ a ∈ s.attempts, s.wanted a.generation = true) (a : Action) :
    Turn s a := by
  by_cases opens : ∃ g state, a = .connectorOpened g state
  · obtain ⟨g, state, rfl⟩ := opens
    exact Advances.turn (advances_connectorOpened aligned g state)
  by_cases attempts : ∃ g, a = .run (.attempt g)
  · obtain ⟨g, rfl⟩ := attempts
    exact Advances.turn (advances_runAttempt aligned wanted g)
  by_cases reads : ∃ c, a = .run (.reader c)
  · obtain ⟨c, rfl⟩ := reads
    exact turn_reader aligned c
  · have routine := s.routine_act (fun g state own => opens ⟨g, state, own⟩)
      (fun g own => attempts ⟨g, own⟩) fun c own => reads ⟨c, own⟩
    exact Advances.turn (routine.advances aligned)

/-- Every action of a reachable client is of this kind. -/
theorem turn_act {options : Options} (run : Reachable options s) (aligned : Aligned s.attempts s)
    (a : Action) : Turn s a :=
  turn_of_wanted aligned (fun alive _ mem => run.wanted alive mem) a

/-! ## The history of a run -/

theorem acts_concat (s : System) (actions : List Action) (a : Action) :
    s.acts (actions ++ [a]) = (s.acts actions).act a := by
  rw [acts, acts, List.foldl_append]
  rfl

section History

variable (start : System) (actions : List Action) (c : Nat)

/-- In a run, the reader of a connection has come across a reply to its greeting that is no
error. -/
def Heard : Prop :=
  ∃ before after reply, actions = before ++ .run (.reader c) :: after ∧
    (start.acts before).Hears c 1 reply

/-- At some moment of a run the session of a connection was in use. -/
def Used : Prop :=
  ∃ before after, actions = before ++ after ∧ (start.acts before).state.current = some c

/-- In a run, the handshake on a connection has ended while the client was gone already. -/
def Orphaned : Prop :=
  ∃ before a after, actions = before ++ a :: after ∧ (start.acts before).alive = false ∧
    ((start.acts before).connection c).said = [greeting] ∧
    ((start.acts (before ++ [a])).connection c).said = [greeting, handshakeDone]

end History

section Later

variable {start : System} {actions : List Action}

theorem Heard.concat (heard : Heard start actions c) (a : Action) :
    Heard start (actions ++ [a]) c := by
  obtain ⟨before, after, reply, rfl, hears⟩ := heard
  exact ⟨before, after ++ [a], reply, by simp, hears⟩

theorem Used.concat (used : Used start actions c) (a : Action) : Used start (actions ++ [a]) c := by
  obtain ⟨before, after, rfl, current⟩ := used
  exact ⟨before, after ++ [a], by simp, current⟩

/-- A handshake that ended too late ended too late. -/
theorem Orphaned.concat (orphaned : Orphaned start actions c) (a : Action) :
    Orphaned start (actions ++ [a]) c := by
  obtain ⟨before, b, after, rfl, gone⟩ := orphaned
  exact ⟨before, b, after ++ [a], by simp, gone⟩

end Later

/-- What the connections of a client tell about a run. -/
structure Recorded (start : System) (actions : List Action) : Prop where
  aligned : Aligned (start.acts actions).attempts (start.acts actions)
  heard : ∀ c reply, ((start.acts actions).connection c).session.Replied 1 reply →
    Heard start actions c
  brief : ∀ c, ((start.acts actions).connection c).said.length ≤ 1 ∨ Used start actions c ∨
    Orphaned start actions c ∧
      ((start.acts actions).connection c).said = [greeting, handshakeDone]

/-- **What is on record after a run.**  By induction from its end: a reply that is there was there
before, or the last action was the reader that brought it, and likewise for what was said. -/
theorem recorded (options : Options) (actions : List Action) :
    Recorded (.fresh options) actions := by
  induction actions using List.reverseRecOn with
  | nil =>
      have vacant (c : Nat) : (System.acts (.fresh options) []).connection c = .called "" 0 :=
        connection_of_length_le _ (Nat.zero_le c)
      refine ⟨.fresh options, fun c reply there => ?_, fun c => .inl ?_⟩
      · rw [vacant] at there
        cases there
      · rw [vacant]
        exact Nat.zero_le 1
  | append_singleton actions a ih =>
      have run : Reachable options ((System.fresh options).acts actions) := Reachable.fresh.acts _
      have turn := turn_act run ih.aligned a
      refine ⟨acts_concat _ actions a ▸ turn.aligned, fun c reply there => ?_, fun c => ?_⟩
      · rw [acts_concat] at there
        rcases turn.replies c 1 reply there with before | ⟨rfl, receives⟩
        · exact (ih.heard c reply before).concat a
        · exact ⟨actions, [], reply, rfl, receives.hears⟩
      · have spoke := turn.speaks c
        rw [← acts_concat] at spoke
        cases spoke with
        | still said =>
            rw [said]
            rcases ih.brief c with short | used | ⟨orphaned, told⟩
            · exact .inl short
            · exact .inr (.inl (used.concat a))
            · exact .inr (.inr ⟨orphaned.concat a, told⟩)
        | greets before said =>
            rw [said]
            exact .inl (Nat.le_refl 1)
        | introduces replied before said used =>
            rcases used with current | ⟨gone, -⟩
            · exact .inr (.inl ⟨actions ++ [a], [], (List.append_nil _).symm, current⟩)
            · exact .inr (.inr ⟨⟨actions, a, [], rfl, gone, before, said⟩, said⟩)
        | serves used everyday said => exact .inr (.inl ⟨actions, [a], rfl, used⟩)

/-! ## Connections left to themselves -/

/-- A connection that is left to itself before the handshake has ended is not taken up again, so the
handshake never ends. -/
theorem brief_acts {options : Options} (run : Reachable options s)
    (aligned : Aligned s.attempts s) (within : c < s.connections.length) (left : ¬s.Engaged c)
    (brief : (s.connection c).said.length ≤ 1) (actions : List Action) :
    ((s.acts actions).connection c).said.length ≤ 1 := by
  induction actions generalizing s with
  | nil => exact brief
  | cons a rest ih =>
      have turn := turn_act run aligned a
      refine ih (run.act a) turn.aligned (Nat.lt_of_lt_of_le within turn.length)
        (fun engaged => left (turn.engaged c within engaged)) ?_
      cases turn.speaks c with
      | still said =>
          rw [said]
          exact brief
      | greets before said =>
          rw [said]
          exact Nat.le_refl 1
      | introduces replied before said used =>
          rcases used with current | ⟨-, b, mem, id, due, handshaking⟩
          · exact absurd (turn.engaged c within (.inl current)) left
          · exact absurd (.inr ⟨b, mem, by rw [handshaking]; rfl⟩) left
      | serves used => exact absurd (.inl used) left

/-! ## All of it together -/

/-- What a connection carries in a run of the client's own accord. -/
structure HandshakeFirst (start : System) (actions : List Action) (c : Nat) : Prop where
  /-- First the greeting, then the end of the handshake, and then everyday messages: documents,
  requests for features and settings. -/
  ordered : Ordered ((start.acts actions).connection c).said
  /-- As they are written, the first message is the request `initialize` under the id 1, the second
  the notification `initialized`, and every later one opens a document, asks for a feature or gives
  settings. -/
  written : ∀ n m, ((start.acts actions).connection c).said[n]? = some m →
    n = 0 ∧ m = .request 1 "initialize" (Message.handshakeParams 0) ∨
    n = 1 ∧ m = .notification "initialized" (.object []) ∨
    2 ≤ n ∧ ((∃ uri languageId text, m = .notification "textDocument/didOpen" (.object [
        ("textDocument", .object [("languageId", .text languageId), ("text", .text text),
          ("uri", .text uri), ("version", .nat 1)])])) ∨
      (∃ id f params, m = .request id (Editor.Feature.method f) params) ∨
      ∃ settings, m = .notification "workspace/didChangeConfiguration"
        (.object [("settings", settings)]))
  /-- Whichever action sends the end of the handshake, the reply to the greeting was read before. -/
  heard : ∀ before a after, actions = before ++ a :: after →
    handshakeDone ∉ ((start.acts before).connection c).said →
    handshakeDone ∈ ((start.acts (before ++ [a])).connection c).said → Heard start before c
  /-- Whoever has failed, has run out of time or was superseded leaves a connection to itself.  If
  its session has not been in use by then, and somebody holds the client, the connection carries the
  greeting at most, whatever comes later. -/
  left : ∀ before after, actions = before ++ after → (start.acts before).alive = true →
    c < (start.acts before).connections.length →
    (∀ a ∈ (start.acts before).attempts, a.phase.connection? ≠ some c) → ¬Used start before c →
    ((start.acts actions).connection c).said.length ≤ 1
  /-- A session that is never in use has sent the greeting at most, unless its handshake has ended
  while the client was gone already; then it has sent the end of the handshake as well, and nothing
  else. -/
  unused : ¬Used start actions c → ((start.acts actions).connection c).said.length ≤ 1 ∨
    Orphaned start actions c ∧
      ((start.acts actions).connection c).said = [greeting, handshakeDone]

/-- In every run, and on every connection, the handshake comes first. -/
theorem handshake_first (options : Options) (actions : List Action) (c : Nat) :
    HandshakeFirst (.fresh options) actions c where
  ordered := (recorded options actions).aligned.ordered c
  written := by
    intro n m there
    exact ((recorded options actions).aligned.ordered c).at there
      |>.imp_right (.imp_right (.imp_right Message.Everyday.written))
  heard := by
    rintro before a after - unsaid said
    have run : Reachable options ((System.fresh options).acts before) := Reachable.fresh.acts _
    have past := recorded options before
    rw [acts_concat] at said
    cases (turn_act run past.aligned a).speaks c with
    | still same =>
        rw [same] at said
        exact absurd said unsaid
    | greets none greets =>
        rw [greets] at said
        cases List.mem_singleton.1 said
    | introduces replied => exact past.heard c _ replied
    | serves used =>
        obtain ⟨later, there⟩ := past.aligned.used c used
        rw [there] at unsaid
        exact absurd (List.mem_cons_of_mem _ List.mem_cons_self) unsaid
  left := by
    rintro before after rfl alive within apart unused
    have run : Reachable options ((System.fresh options).acts before) := Reachable.fresh.acts _
    have past := recorded options before
    rw [acts, List.foldl_append]
    refine brief_acts run past.aligned within ?_ ?_ after
    · rintro (current | ⟨a, mem, own⟩)
      · exact unused ⟨before, [], (List.append_nil _).symm, current⟩
      · exact apart a mem own
    · refine (past.brief c).resolve_right ?_
      rintro (used | ⟨⟨early, a, late, same, gone, -⟩, -⟩)
      · exact unused used
      · -- A client that is gone does not come back.
        rw [same, acts, List.foldl_append] at alive
        cases gone.symm.trans (alive_of_acts alive)
  unused := fun unused =>
    ((recorded options actions).brief c).imp_right fun told => told.resolve_left unused

/-- A client that is let go of while it shakes hands. -/
def letGo : List Action :=
  [.connect "one", .run (.attempt 1), .connectorOpened 1 .opened, .peerFeed 0 "\x7b\"id\":1\x7d",
    .run (.reader 0), .disown, .run (.attempt 1)]

example : (((System.fresh .standard).acts letGo).connection 0).link.queued
    = [.frame greeting, .frame handshakeDone, .close] := by
  cbv

end LanguageBridge.Client.System
