import LanguageBridge.Proofs.Client.Greeting
import LanguageBridge.Proofs.Client.Rest

/-!
# One step of a handshake

A handshake is a conversation of three messages, but no operation of a client leads the whole of it.
An attempt greets the server and goes to sleep; a reader finds the reply; the attempt is woken and
ends the handshake; whatever else the client does goes on in between.  This module looks at one
action at a time and says how much further it takes the conversation on one connection.

## Main results

* `System.Speaks`: what a single action comes to on a connection.  The server is greeted, or the
  reply to the greeting has come and the handshake ends, or a session in use carries everyday
  messages.
* `System.Advances`: the same for connectors that open a connection and for attempts that run.  They
  do so in order, and they bring no reply.
* `System.runReader_reads`: readers bring replies and say nothing.  What is known of a server is
  what its reply to the greeting has told.

## Why replies are followed as well

The last message may be sent only after a good reply to the first one has been read *on the same
connection*.  So a step has to say which replies a session may have after it, and what it may know of
its server, not only what was sent: these are the parts `replies` and `informed` of
`System.Advances` and of `Shook`.  The order of the whole conversation follows from them in the
modules that go through runs.
-/

namespace LanguageBridge.Client.System

open Message (Ordered greeting handshakeDone)

variable {s t u : System} {c g : Nat}

/-! ## What one action comes to -/

/-- What one action adds to the messages of a connection. -/
inductive Speaks (s t : System) (c : Nat) : Prop
  | still (said : (t.connection c).said = (s.connection c).said)
  | greets (before : (s.connection c).said = []) (said : (t.connection c).said = [greeting])
  /-- The reply to the greeting has come, and the session is put into use, unless the client is
  gone. -/
  | introduces {reply : Json} (replied : (s.connection c).session.Replied 1 reply)
      (before : (s.connection c).said = [greeting])
      (said : (t.connection c).said = [greeting, handshakeDone])
      (used : t.state.current = some c ∨
        s.alive = false ∧ ∃ a ∈ s.attempts, ∃ id due, a.phase = .handshaking c id due)
  | serves {more : List Message} (used : s.state.current = some c)
      (everyday : ∀ m ∈ more, m.Everyday)
      (said : (t.connection c).said = (s.connection c).said ++ more)

theorem Routine.speaks (routine : Routine s t) (c : Nat) : Speaks s t c := by
  obtain ⟨more, said, everyday, since⟩ := (routine.connection c).said
  by_cases none : more = []
  · exact .still (by rw [said, none, List.append_nil])
  · exact .serves (since none) everyday said

/-- A connection whose session is in use, or which some attempt has. -/
def Engaged (s : System) (c : Nat) : Prop :=
  s.state.current = some c ∨ ∃ a ∈ s.attempts, a.phase.connection? = some c

/-- What routine work does not engage was engaged before it. -/
theorem Routine.engaged (routine : Routine s t) (engaged : t.Engaged c) : s.Engaged c := by
  rcases engaged with current | ⟨a, mem, own⟩
  · exact .inl (routine.current c current)
  · refine .inr ⟨a, (routine.attempts a mem).resolve_right fun starting => ?_, own⟩
    rw [starting] at own
    cases own

/-- An attempt that has come to another phase has the connection of that phase at most. -/
theorem engaged_setPhase {phase : Phase} (engaged : (s.setPhase g phase).Engaged c) :
    s.Engaged c ∨ phase.connection? = some c := by
  rcases engaged with current | ⟨a, mem, own⟩
  · exact .inl (.inl current)
  · obtain ⟨before, there, rfl⟩ := List.mem_map.1 mem
    split at own
    · exact .inr own
    · exact .inl (.inr ⟨before, there, own⟩)

/-- A system that has gone on in order and without a reply.  No connection that was left to itself
is taken up again, and only a reply that has come already tells anything new about a server. -/
structure Advances (s t : System) : Prop where
  aligned : Aligned t.attempts t
  length : s.connections.length ≤ t.connections.length
  engaged : ∀ c, c < s.connections.length → t.Engaged c → s.Engaged c
  speaks : ∀ c, Speaks s t c
  replies : ∀ c id reply, (t.connection c).session.Replied id reply →
    (s.connection c).session.Replied id reply
  informed : ∀ c, (s.connection c).session.Informed ((s.connection c).session.Replied 1)
    (t.connection c).session

theorem Routine.advances (routine : Routine s t) (aligned : Aligned s.attempts s) :
    Advances s t where
  aligned := aligned.routine routine routine.attempts
  length := Nat.le_of_eq routine.length.symm
  engaged := fun _ _ => routine.engaged
  speaks := routine.speaks
  replies := fun c => (routine.connection c).replies
  informed := fun c => (routine.connection c).informed.mono nofun

/-- A timer that is armed changes none of this. -/
theorem Advances.arm (advances : Advances s t) (j : Job) (due : Nat) :
    Advances s (t.arm j due) where
  aligned := advances.aligned.same (Nat.le_refl _) (fun _ => id) rfl fun _ => rfl
  length := advances.length
  engaged := advances.engaged
  speaks := by
    intro c
    cases advances.speaks c with
    | still said => exact .still said
    | greets before said => exact .greets before said
    | introduces replied before said used => exact .introduces replied before said used
    | serves used everyday said => exact .serves used everyday said
  replies := advances.replies
  informed := advances.informed

theorem attempts_endAttempt (s : System) (g : Nat) :
    (s.endAttempt g).attempts = s.attempts.filter (·.generation ≠ g) := by
  unfold endAttempt
  split
  · rename_i none
    refine (List.filter_eq_self.2 fun a mem => ?_).symm
    simpa using List.find?_eq_none.1 none a mem
  · exact (Calm.leave _ _).attempts

theorem said_endAttempt (s : System) (g c : Nat) :
    ((s.endAttempt g).connection c).said = (s.connection c).said :=
  Connection.said_of_frames (connection_endAttempt s g c).frames

theorem said_finishAttempt (s : System) (g c : Nat) :
    ((s.finishAttempt g).connection c).said = (s.connection c).said :=
  Connection.said_of_frames (connection_finishAttempt s g c).frames

/-- After an attempt has ended there is none of its generation. -/
theorem Routine.ended (routine : Routine s t) {a : Attempt}
    (mem : a ∈ (t.endAttempt g).attempts) :
    a ∈ s.attempts.filter (·.generation ≠ g) ∨ a.phase = .starting := by
  rw [attempts_endAttempt] at mem
  obtain ⟨there, other⟩ := List.mem_filter.1 mem
  rcases routine.attempts a there with before | starting
  · exact .inl (List.mem_filter.2 ⟨before, other⟩)
  · exact .inr starting

theorem Routine.finished (routine : Routine s t) {a : Attempt}
    (mem : a ∈ (t.finishAttempt g).attempts) :
    a ∈ s.attempts.filter (·.generation ≠ g) ∨ a.phase = .starting := by
  have lost : Routine s (if t.alive then t.lost g else t) := by
    split
    · exact routine.lost g
    · exact routine
  exact lost.ended mem

/-! ## A handshake that goes on -/

namespace Shook

variable {a : Attempt} {told : List Message}

/-- The attempt has ended without another word. -/
theorem ends (shook : Shook a c told s t) {v : System} (routine : Routine t v)
    («over» : ∀ b ∈ v.attempts,
      b ∈ t.attempts.filter (·.generation ≠ a.generation) ∨ b.phase = .starting)
    (quiet : ∀ d, (v.connection d).said = (t.connection d).said)
    (speaks : (v.connection c).said = told → Speaks s v c) : Advances s v where
  aligned := shook.left.routine routine (shook.attempts ▸ «over»)
  length := Nat.le_of_eq (routine.length.trans shook.length).symm
  engaged := by
    intro d _ engaged
    rcases routine.engaged engaged with current | ⟨b, mem, own⟩
    · exact .inl (shook.current d current)
    · exact .inr ⟨b, shook.attempts ▸ mem, own⟩
  speaks := by
    intro d
    by_cases here : d = c
    · subst here
      exact speaks ((quiet d).trans shook.told)
    · exact .still ((quiet d).trans (shook.others d here))
  replies := fun d id reply there =>
    shook.replies d id reply ((routine.connection d).replies id reply there)
  informed := fun d => (shook.informed d).trans ((routine.connection d).informed.mono nofun)

/-- The attempt has come to another phase. -/
theorem moves (shook : Shook a c told s t) (aligned : Aligned s.attempts s) (mem : a ∈ s.attempts)
    (own : a.phase.connection? = some c) {v : System} (connections : v.connections = t.connections)
    (attempts : v.attempts = t.attempts)
    (current : ∀ d, v.state.current = some d → t.state.current = some d ∨ d = c)
    (left : Aligned (s.attempts.filter (·.generation ≠ a.generation)) v) {phase : Phase}
    (keeps : phase.session? = some c)
    (greeted : ∀ id due, phase = .handshaking c id due → id = 1 ∧ told = [greeting])
    (speaks : (v.connection c).said = told → Speaks s (v.setPhase a.generation phase) c) :
    Advances s (v.setPhase a.generation phase) := by
  have same (d : Nat) : v.connection d = t.connection d := by
    rw [System.connection, connections, ← System.connection]
  have kept : v.attempts = s.attempts := attempts.trans shook.attempts
  have uses {d : Nat} (there : phase.connection? = some d) : d = c :=
    Option.some.inj (there.symm.trans (Phase.connection_of_session keeps))
  have longer : s.connections.length = v.connections.length := by rw [connections, shook.length]
  refine ⟨Aligned.setPhase (by rw [kept]; exact left) ?within ?alone ?silent ?greeted,
    Nat.le_of_eq longer, fun d _ engaged => ?engaged, fun d => ?speaks,
    fun d id reply there => shook.replies d id reply (same d ▸ there), fun d => ?informed⟩
  case within =>
    intro d there
    obtain rfl := uses there
    rw [← longer]
    exact aligned.within a mem d own
  case alone =>
    intro d there b mem' uses'
    obtain rfl := uses there
    exact aligned.alone b (kept ▸ mem') a mem d uses' own
  case silent =>
    intro d opening
    rw [opening] at keeps
    cases keeps
  case greeted =>
    intro d id due handshaking
    obtain rfl := uses (by rw [handshaking]; rfl)
    obtain ⟨one, greeted⟩ := greeted id due handshaking
    exact ⟨one, (congrArg Connection.said (same d)).trans (shook.told.trans greeted)⟩
  case informed =>
    show (s.connection d).session.Informed _ (v.connection d).session
    rw [same d]
    exact shook.informed d
  case engaged =>
    rcases engaged_setPhase engaged with (here | ⟨b, there, uses'⟩) | there
    · rcases current d here with before | rfl
      · exact .inl (shook.current d before)
      · exact .inr ⟨a, mem, own⟩
    · exact .inr ⟨b, kept ▸ there, uses'⟩
    · obtain rfl := uses there
      exact .inr ⟨a, mem, own⟩
  case speaks =>
    by_cases here : d = c
    · subst here
      exact speaks ((congrArg Connection.said (same d)).trans shook.told)
    · exact .still ((congrArg Connection.said (same d)).trans (shook.others d here))

end Shook

/-! ## Attempts -/

/-- A session that is disposed of is known to be over, whatever it has become without a word. -/
theorem routine_discard (s : System) {session : Session}
    (replies : ∀ id reply, session.Replied id reply → (s.connection c).session.Replied id reply) :
    Routine s ((s.exchange c session (s.connection c).link).dispose c) := by
  let told := s.exchange c session (s.connection c).link
  have calm : Calm told (told.dispose c) := .dispose told c
  obtain ⟨agenda, connections, rest⟩ : ∃ agenda connections, told = { s with agenda, connections } := by
    unfold told System.exchange
    simp only []
    split <;> exact ⟨_, _, rfl⟩
  have own (d : Nat) : (told.connection d).said = (s.connection d).said ∧
      ∀ id reply, (told.connection d).session.Replied id reply →
        (s.connection d).session.Replied id reply := by
    rw [connection_exchange]
    split
    · rename_i same
      rw [same.1]
      exact ⟨rfl, replies⟩
    · exact ⟨rfl, fun _ _ => id⟩
  refine ⟨calm.length.trans (length_exchange s c session _), fun a mem => .inl ?_,
    fun d current => ?_, fun d => .of_said ?_ (fun id reply there => ?_) ?_⟩
  · rw [calm.attempts, rest] at mem
    exact mem
  · rw [calm.state, rest] at current
    exact current
  · exact (Connection.said_of_frames (calm.connection d).frames).trans (own d).1
  · exact (own d).2 id reply ((calm.connection d).replies id reply there)
  · by_cases same : d = c
    · subst same
      exact .of_ended (disposed_dispose_self told d)
    · have other : told.connection d = s.connection d := by
        rw [connection_exchange, if_neg fun here => same here.1]
      exact other ▸ (calm.connection d).informed

/-- A handshake that ends has failed, or the server is told, its reply is taken to heart, and the
session is put into use if the attempt is still wanted. -/
theorem finishHandshake_cases (s : System) (g : Nat) (within : c < s.connections.length)
    (outcome : Outcome) :
    (∃ u, Routine s u ∧ s.finishHandshake g c outcome = u.finishAttempt g) ∨
    ∃ reply u, outcome = .ok reply ∧ Says c handshakeDone (· = reply) s u ∧
      s.finishHandshake g c outcome = if u.wanted g then u.install g c
        else ((u.dispose c).closeSocket c).endAttempt g := by
  have same : (s.disarm (.attempt g)).connection c = s.connection c := rfl
  rcases (s.connection c).session.finishHandshake_cases (s.connection c).link outcome with
    ⟨e, session, finished, kept⟩ |
      ⟨reply, capabilities, session, link, rfl, sent, finished, told, kept⟩
  · refine .inl ⟨(((s.disarm (.attempt g)).exchange c session
      (s.connection c).link).dispose c).closeSocket c, ?_, ?_⟩
    · have stopped : Routine s (s.disarm (.attempt g)) := (Routine.refl s).calm (.disarm s _)
      exact (stopped.trans (routine_discard _ kept)).calm (.closeSocket _ c)
    · unfold finishHandshake
      simp only [same, finished]
  · refine .inr ⟨reply, (s.disarm (.attempt g)).exchange c session link, rfl, ?_, ?_⟩
    · have spoken : Says c handshakeDone (· = reply) (s.disarm (.attempt g))
          ((s.disarm (.attempt g)).exchange c session link) :=
        says_exchange within rfl sent kept fun _ => .inr (.inr ⟨reply, rfl, told⟩)
      exact ⟨spoken.rest, spoken.length, spoken.said, spoken.others, spoken.replies,
        spoken.informed⟩
    · unfold finishHandshake
      simp only [same, finished]

/-- An installation is a change of phase in front of changes that connections and attempts do not
show. -/
theorem install_form (s : System) (g c : Nat) :
    ∃ v : System, s.install g c = v.setPhase g (.watching c) ∧ v.connections = s.connections ∧
      v.attempts = s.attempts ∧ v.state.current = some c := by
  refine ⟨_, rfl, ?_⟩
  unfold cancelRetry stopPause
  split <;> unfold stopChecks <;> split <;> exact ⟨rfl, rfl, rfl⟩

/-- The handshake of an attempt ends, once the reply to its greeting was looked for. -/
theorem advances_finishHandshake {a : Attempt} {id due : Nat} {outcome : Outcome}
    (aligned : Aligned s.attempts s) (mem : a ∈ s.attempts)
    (handshaking : a.phase = .handshaking c id due) (calm : Calm s u)
    (replied : ∀ reply, outcome = .ok reply → (s.connection c).session.Replied 1 reply)
    (wanted : s.alive = true → s.wanted a.generation = true) :
    Advances s (u.finishHandshake a.generation c outcome) := by
  have own : a.phase.connection? = some c := by rw [handshaking]; rfl
  have looked : Routine s u := (Routine.refl s).calm calm
  have within : c < u.connections.length := calm.length.symm ▸ aligned.within a mem c own
  obtain ⟨-, before⟩ := aligned.greeted a mem c id due handshaking
  rcases finishHandshake_cases u a.generation within outcome with
    ⟨v, routine, failed⟩ | ⟨reply, v, rfl, spoken, ended⟩
  · rw [failed]
    have finished := looked.trans (routine.finishAttempt a.generation)
    exact finished.advances aligned
  · have shook : Shook a c [greeting, handshakeDone] s v :=
      spoken.shook aligned mem own looked calm.attempts
        (fun d => Connection.said_of_frames (calm.connection d).frames) (by rw [before]; rfl)
        (.introduced nofun) fun _ own => own ▸ replied reply rfl
    have same : v.wanted a.generation = s.wanted a.generation := by
      rw [spoken.rest, calm.rest]
      rfl
    rw [ended]
    split
    · obtain ⟨w, installs, connections, attempts, current⟩ := install_form v a.generation c
      rw [installs]
      exact shook.moves aligned mem own connections attempts
        (fun d here => .inr (Option.some.inj (here.symm.trans current)))
        (shook.left.install connections current shook.told) rfl nofun fun said =>
          .introduces (replied reply rfl) before said (.inl current)
    · -- Only a client that is gone does not want the session any more.
      rename_i unwanted
      have gone : s.alive = false := by
        refine Bool.eq_false_iff.2 fun alive => unwanted ?_
        rw [same]
        exact wanted alive
      have hushed : Calm v ((v.dispose c).closeSocket c) :=
        (Calm.dispose v c).trans (.closeSocket _ c)
      have closed : Routine v ((v.dispose c).closeSocket c) := (Routine.refl v).calm hushed
      refine shook.ends (closed.endAttempt _) (fun b there => closed.ended there) (fun d => ?_)
        fun said => .introduces (replied reply rfl) before said
          (.inr ⟨gone, a, mem, id, due, handshaking⟩)
      exact (said_endAttempt _ _ d).trans (Connection.said_of_frames (hushed.connection d).frames)

/-- An attempt that asks the connector for a connection. -/
theorem advances_callConnector (aligned : Aligned s.attempts s) (a : Attempt) :
    Advances s (s.callConnector a) := by
  let u := { s with connections := s.connections ++ [Connection.called a.endpoint s.now] }
  -- The new connection has carried nothing, and neither had the one that was not there.
  have fresh (d : Nat) : (u.connection d).said = (s.connection d).said ∧
      (u.connection d).session = (s.connection d).session := by
    rw [show u.connection d = _ from connection_append s _ d]
    split
    · rename_i last
      rw [last, connection_of_length_le s (Nat.le_refl _)]
      exact ⟨rfl, rfl⟩
    · exact ⟨rfl, rfl⟩
  have longer : s.connections.length < u.connections.length := by simp [u]
  refine ⟨?_, Nat.le_of_lt longer, fun d older engaged => ?engaged, fun d => .still (fresh d).1,
    fun d id reply there => (fresh d).2 ▸ there, fun d => ?informed⟩
  case informed =>
    show (s.connection d).session.Informed _ (u.connection d).session
    rw [(fresh d).2]
  case engaged =>
    refine (engaged_setPhase engaged).resolve_right ?_
    rintro ⟨⟩
    exact absurd older (Nat.lt_irrefl _)
  refine Aligned.setPhase (s := u) ?_ ?_ ?_ ?_ nofun
  · exact aligned.same (Nat.le_of_lt longer) (fun b mem => (List.mem_filter.1 mem).1) rfl
      fun d => (fresh d).1
  · rintro c ⟨⟩
    exact longer
  · rintro c ⟨⟩ b mem uses
    exact absurd (aligned.within b mem _ uses) (Nat.lt_irrefl _)
  · rintro c ⟨⟩
    rw [(fresh _).1, connection_of_length_le s (Nat.le_refl _)]
    rfl

/-- An attempt that runs. -/
theorem advances_runAttempt (aligned : Aligned s.attempts s)
    (wanted : s.alive = true → ∀ a ∈ s.attempts, s.wanted a.generation = true) (g : Nat) :
    Advances s (s.runAttempt g) := by
  have still : Advances s s := (Routine.refl s).advances aligned
  unfold runAttempt
  split
  · exact still
  · rename_i a found
    have mem := List.mem_of_find?_eq_some found
    obtain rfl : a.generation = g := by simpa using List.find?_some found
    split
    · exact advances_callConnector aligned a
    · exact still
    · rename_i c id due handshaking
      obtain ⟨rfl, before⟩ := aligned.greeted a mem c id due handshaking
      rcases resumed : (s.connection c).session.resume s.now 1 due with ⟨call, session⟩
      have looked : Calm s (s.update c fun k => { k with session }) := .resume resumed
      simp only [resumed]
      cases call with
      | «over» outcome =>
          refine advances_finishHandshake aligned mem handshaking looked ?_ fun alive =>
            wanted alive a mem
          rintro reply rfl
          exact Session.replied_of_resume resumed
      | waiting id' due' =>
          obtain ⟨rfl, rfl⟩ := Session.same_of_resume resumed
          have routine : Routine s (s.update c fun k => { k with session }) :=
            (Routine.refl s).calm looked
          have own : a.phase.connection? = some c := by rw [handshaking]; rfl
          have said (d : Nat) := Connection.said_of_frames (looked.connection d).frames
          refine ⟨Aligned.setPhase (s := s.update c fun k => { k with session }) ?_ ?_ ?_ nofun ?_,
            Nat.le_of_eq looked.length.symm, fun d _ engaged => ?engaged, fun d => .still (said d),
            fun d => (looked.connection d).replies,
            fun d => (routine.connection d).informed.mono nofun⟩
          case engaged =>
            rcases engaged_setPhase engaged with before | ⟨⟨⟩⟩
            · exact before
            · exact .inr ⟨a, mem, own⟩
          · exact aligned.routine routine fun b there => .inl (List.mem_filter.1 there).1
          · rintro d ⟨⟩
            exact looked.length.symm ▸ aligned.within a mem c own
          · rintro d ⟨⟩ b there uses
            exact aligned.alone b there a mem c uses own
          · rintro d id due ⟨⟩
            exact ⟨rfl, (said c).trans before⟩
    · split
      · have finished := (Routine.refl s).finishAttempt a.generation
        exact finished.advances aligned
      · exact still

/-- The session that is started on a connection has said nothing and heard nothing. -/
theorem routine_opening (s : System) (c : Nat) :
    Routine s (s.opening c) ∧ ∀ d, ((s.opening c).connection d).said = (s.connection d).said := by
  refine ⟨Routine.calm (Routine.update (t := { s with sessions := s.sessions + 1 })
    ((Routine.refl s).same rfl rfl rfl) ?_) (.wake _ _), fun d => ?_⟩
  · exact .of_said rfl nofun fun _ => .inl rfl
  · show (({ s with sessions := s.sessions + 1 }.update c fun k =>
      k.started (s.sessions + 1) (.fresh s.state.options.languageId
        s.state.options.requestTimeout)).connection d).said = _
    rw [connection_update_eq]
    split <;> rfl

/-- A server that has been greeted.  The attempt waits for the reply, unless there is no time at all
for it. -/
theorem advances_greeted (aligned : Aligned s.attempts s) {a : Attempt} (mem : a ∈ s.attempts)
    (opening : a.phase = .opening c) (opened : Routine s t) (attempts : t.attempts = s.attempts)
    (quiet : ∀ d, (t.connection d).said = (s.connection d).said)
    (spoken : Says c greeting (fun _ => False) t u) :
    (∀ v, Calm u v → Advances s (v.finishAttempt a.generation)) ∧
      ∀ due, Advances s (u.setPhase a.generation (.handshaking c 1 due)) := by
  have own : a.phase.connection? = some c := by rw [opening]; rfl
  have before := aligned.silent a mem c opening
  have shook : Shook a c [greeting] s u :=
    spoken.shook aligned mem own opened attempts quiet (by rw [before]; rfl) .greeted nofun
  refine ⟨fun v calm => ?_, fun due => ?_⟩
  · have hushed : Routine u v := (Routine.refl u).calm calm
    refine shook.ends (hushed.finishAttempt _) (fun b there => hushed.finished there) (fun d => ?_)
      (.greets before)
    exact (said_finishAttempt v _ d).trans (Connection.said_of_frames (calm.connection d).frames)
  · refine shook.moves aligned mem own rfl rfl (fun _ => .inl) shook.left rfl
      (fun id later handshaking => ?_)
      fun said => .greets before said
    cases handshaking
    exact ⟨rfl, rfl⟩

/-- A session started on a connection that has just been opened, and the server greeted. -/
theorem advances_startSession (aligned : Aligned s.attempts s) {a : Attempt} (mem : a ∈ s.attempts)
    (opening : a.phase = .opening c) (opened : Routine s t) (attempts : t.attempts = s.attempts)
    (quiet : ∀ d, (t.connection d).said = (s.connection d).said) :
    Advances s (t.startSession a.generation c) := by
  have within : c < t.connections.length :=
    opened.length.symm ▸ aligned.within a mem c (by rw [opening]; rfl)
  obtain ⟨started, same⟩ := routine_opening t c
  have routine := opened.trans started
  obtain ⟨call, session, link, greets, begun⟩ := startSession_eq t a.generation c
  have replies : ∀ id reply, session.Replied id reply →
      ((t.opening c).connection c).session.Replied id reply := fun _ _ there => there.of_call greets
  rw [begun]
  rcases Session.sent_of_call greets with ⟨unsent, e, rfl⟩ | ⟨sent, outcome⟩
  · -- It could not be greeted, so nothing was said.
    obtain ⟨v, calm, -, -, failed⟩ :=
      finishHandshake_error ((t.opening c).exchange c session link) a.generation c e
    have spoke : Routine s ((t.opening c).exchange c session link) :=
      routine.exchange (.of_said (Connection.said_of_frames (congrArg Link.frames unsent)) replies
        (.of_call greets))
    have finished := (spoke.calm calm).finishAttempt a.generation
    simp only [failed]
    exact finished.advances aligned
  · have one : ((t.opening c).connection c).session.nextId = 1 := by
      rw [connection_opening t within]
      rfl
    rw [one] at sent outcome
    have spoken : Says c greeting (fun _ => False) (t.opening c)
        ((t.opening c).exchange c session link) :=
      says_exchange (started.length.symm ▸ within) rfl sent replies (.of_call greets)
    obtain ⟨late, waits⟩ := advances_greeted aligned mem opening routine attempts
      (fun d => (same d).trans (quiet d)) spoken
    rcases outcome with ⟨e, rfl⟩ | ⟨due, rfl⟩
    · obtain ⟨v, calm, -, -, failed⟩ :=
        finishHandshake_error ((t.opening c).exchange c session link) a.generation c e
      simp only [failed]
      exact late v calm
    · exact (waits due).arm _ due

/-- A connector that has opened a connection. -/
theorem advances_connectorOpened (aligned : Aligned s.attempts s) (g : Nat) (state : SocketState) :
    Advances s (s.connectorOpened g state) := by
  unfold connectorOpened
  split
  · exact (Routine.refl s).advances aligned
  · rename_i c called
    obtain ⟨a, found, opening⟩ := call?_eq_some called
    have mem := List.mem_of_find?_eq_some found
    obtain rfl : a.generation = g := by simpa using List.find?_some found
    have silent : ((s.connection c).opened state).said = (s.connection c).said :=
      (aligned.silent a mem c opening).symm
    have opened : Routine s (s.update c fun k => k.opened state) :=
      (Routine.refl s).update (.of_link silent rfl)
    simp only []
    split
    · refine advances_startSession aligned mem opening ?_ rfl fun d => ?_
      · exact opened.same rfl rfl rfl
      · show ((s.update c fun k => k.opened state).connection d).said = _
        rw [connection_update_eq]
        split
        · rename_i same
          rw [same.1, silent]
        · rfl
    · have closed := opened.calm (.closeSocket _ c)
      have ended := (closed.calm (.stopListening _ c)).endAttempt a.generation
      exact ended.advances aligned

/-! ## Readers -/

/-- The reader of a connection is about to come across a reply to a request. -/
def Hears (s : System) (c id : Nat) (reply : Json) : Prop :=
  (s.connection c).link.listening = true ∧
    ∃ text ∈ (s.connection c).link.inbound, Answers text id (.ok reply)

/-- The reader of a connection is about to hand the reply to a pending request to its session: it
stands in the first text that answers the request. -/
def Receives (s : System) (c id : Nat) (reply : Json) : Prop :=
  (s.connection c).link.listening = true ∧ id ∈ (s.connection c).session.pending ∧
    ∃ front text back, (s.connection c).link.inbound = front ++ text :: back ∧
      (∀ earlier ∈ front, ∀ outcome, ¬Answers earlier id outcome) ∧ Answers text id (.ok reply)

theorem Receives.hears {id : Nat} {reply : Json} (receives : s.Receives c id reply) :
    s.Hears c id reply := by
  obtain ⟨listening, -, front, text, back, inbound, -, answers⟩ := receives
  exact ⟨listening, text, inbound ▸ List.mem_append_right front List.mem_cons_self, answers⟩

/-- What a reader of one connection does to another or the same, as far as a handshake is concerned:
it says nothing of the client's own accord, it brings the replies that it comes across, and it
leaves it to others to learn from them. -/
structure Reads (s t : System) (c d : Nat) : Prop where
  said : (t.connection d).said = (s.connection d).said
  replies : ∀ id reply, (t.connection d).session.Replied id reply →
    (s.connection d).session.Replied id reply ∨ d = c ∧ s.Receives c id reply
  informed : (s.connection d).session.Informed (fun _ => False) (t.connection d).session

theorem runReader_reads (s : System) (c d : Nat) : Reads s (s.runReader c) c d := by
  have of_same (same : (s.runReader c).connection d = s.connection d) :
      Reads s (s.runReader c) c d :=
    ⟨by rw [same], fun id reply there => .inl (same ▸ there), by rw [same]⟩
  by_cases same : d = c
  case neg => exact of_same (connection_runReader_of_ne s same)
  subst same
  cases listening : (s.connection d).link.listening with
  | false =>
      refine of_same (congrArg (System.connection · d) ?_)
      unfold runReader
      simp only [listening]
      rfl
  | true =>
      obtain ⟨session, link, read, made⟩ := connection_runReader s listening
      have first : _ = session := congrArg Prod.fst read
      have second : _ = link := congrArg Prod.snd read
      have said : link.frames.filter Message.isOwn = (s.connection d).said := by
        rw [← second]
        exact Session.reads_say _ _ _
      have replies (id : Nat) (reply : Json) (there : session.Replied id reply) :
          (s.connection d).session.Replied id reply ∨ d = d ∧ s.Receives d id reply := by
        rw [← first] at there
        exact (Session.replied_reads _ _ _ there).imp_right fun receives =>
          ⟨rfl, listening, receives⟩
      have informed : (s.connection d).session.Informed (fun _ => False) session := by
        rw [← first]
        exact .reads _ _ _
      by_cases feeding : link.feeding = true
      · rw [if_pos feeding] at made
        exact ⟨made ▸ said, made ▸ replies, made ▸ informed⟩
      · -- The texts have ended, which fails whatever still waits for one.
        rw [if_neg feeding] at made
        refine ⟨made ▸ said, fun id reply there => replies id reply ?_, made ▸ .of_ended rfl⟩
        rw [made] at there
        exact there.of_failPending

end LanguageBridge.Client.System
