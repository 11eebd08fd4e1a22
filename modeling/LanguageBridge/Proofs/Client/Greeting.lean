import LanguageBridge.Proofs.Client.Routine

/-!
# How far a handshake has come

The messages that a connection carries of the client's own accord show how far its handshake has
come (`Message.Ordered`), and the phase of the attempt for which it was opened agrees with them
(`System.Aligned`).  That lasts while everyday messages are sent on the session in use, attempts end
or move on, and while a message of the handshake is sent that is next in order.

A client may be gone while an attempt shakes hands.  The attempt is then left to itself, and other
ones may be left beside it; all that is needed of them is that no two share a connection.

## Main definitions

* `Message.Ordered`: nothing, or the greeting, or the greeting, the end of the handshake and from
  then on everyday messages.
* `System.Aligned attempts s`: on every connection that is shared out among `attempts`, what was
  said there fits the phase.  The attempts stand apart from the system because a step may take one
  out before it says something for it.
* `System.Says`, `System.Shook`: a single message, and a single message of a handshake, that goes
  out on one connection while all others stay as they are.
-/

namespace LanguageBridge

namespace Message

/-- The request that greets a server. -/
def greeting : Message := .request 1 "initialize" (handshakeParams 0)

/-- What a connection carries of the client's own accord: nothing yet, the greeting, or the
greeting, the end of the handshake and then everyday messages. -/
inductive Ordered : List Message → Prop
  | silent : Ordered []
  | greeted : Ordered [greeting]
  | introduced {later : List Message} (everyday : ∀ m ∈ later, m.Everyday) :
      Ordered (greeting :: handshakeDone :: later)

/-- Everyday messages may follow a handshake that is over. -/
theorem Ordered.append {later more : List Message}
    (ordered : Ordered (greeting :: handshakeDone :: later)) (everyday : ∀ m ∈ more, m.Everyday) :
    Ordered (greeting :: handshakeDone :: (later ++ more)) := by
  cases ordered with
  | introduced before =>
      exact .introduced fun m mem => (List.mem_append.1 mem).elim (before m) (everyday m)

/-- The messages of a session in use, as they are written: a document is opened with its full text,
a feature is asked for, or settings are given. -/
theorem Everyday.written {m : Message} (everyday : m.Everyday) :
    (∃ uri languageId text, m = .notification "textDocument/didOpen" (.object [("textDocument",
      .object [("languageId", .text languageId), ("text", .text text), ("uri", .text uri),
        ("version", .nat 1)])])) ∨
    (∃ id f params, m = .request id (Editor.Feature.method f) params) ∨
    ∃ settings, m = .notification "workspace/didChangeConfiguration"
      (.object [("settings", settings)]) := by
  cases everyday with
  | opening uri languageId text => exact .inl ⟨uri, languageId, text, rfl⟩
  | asking id f params => exact .inr (.inl ⟨id, f, params, rfl⟩)
  | configuring settings => exact .inr (.inr ⟨settings, rfl⟩)

/-- At every place in order stands the message that belongs there. -/
theorem Ordered.at {said : List Message} (ordered : Ordered said) {n : Nat} {m : Message}
    (there : said[n]? = some m) :
    n = 0 ∧ m = greeting ∨ n = 1 ∧ m = handshakeDone ∨ 2 ≤ n ∧ m.Everyday := by
  cases ordered with
  | silent => cases there
  | greeted =>
      match n with
      | 0 => exact .inl ⟨rfl, (Option.some.inj there).symm⟩
      | n + 1 => cases there
  | introduced everyday =>
      match n with
      | 0 => exact .inl ⟨rfl, (Option.some.inj there).symm⟩
      | 1 => exact .inr (.inl ⟨rfl, (Option.some.inj there).symm⟩)
      | n + 2 => exact .inr (.inr ⟨by omega, everyday m (List.mem_of_getElem? there)⟩)

end Message

namespace Client.System

open Message (Ordered greeting handshakeDone)

variable {s t u : System} {c g : Nat}

/-! ## What the attempts have come to -/

/-- Connections whose messages are in order, and attempts that have come as far as the messages on
their connections tell. -/
structure Aligned (attempts : List Attempt) (s : System) : Prop where
  within : ∀ a ∈ attempts, ∀ c, a.phase.connection? = some c → c < s.connections.length
  /-- Attempts of different generations have different connections. -/
  alone : ∀ a ∈ attempts, ∀ b ∈ attempts, ∀ c, a.phase.connection? = some c →
    b.phase.connection? = some c → a.generation = b.generation
  silent : ∀ a ∈ attempts, ∀ c, a.phase = .opening c → (s.connection c).said = []
  greeted : ∀ a ∈ attempts, ∀ c id due, a.phase = .handshaking c id due →
    id = 1 ∧ (s.connection c).said = [greeting]
  used : ∀ c, s.state.current = some c →
    ∃ later, (s.connection c).said = greeting :: handshakeDone :: later
  ordered : ∀ c, Ordered (s.connection c).said

namespace Aligned

variable {attempts later : List Attempt}

/-- A client that has done nothing has said nothing. -/
theorem fresh (options : Options) : Aligned (System.fresh options).attempts (.fresh options) where
  within := nofun
  alone := nofun
  silent := nofun
  greeted := nofun
  used := nofun
  ordered := fun c => by
    rw [connection_of_length_le _ (Nat.zero_le c)]
    exact .silent

/-- Everyday messages on the session in use, and attempts that have ended or just begun. -/
theorem grow (aligned : Aligned attempts s)
    (length : s.connections.length ≤ t.connections.length)
    (left : ∀ a ∈ later, a ∈ attempts ∨ a.phase = .starting)
    (current : ∀ c, t.state.current = some c → s.state.current = some c)
    (said : ∀ c, ∃ more, (t.connection c).said = (s.connection c).said ++ more ∧
      (∀ m ∈ more, m.Everyday) ∧ (more ≠ [] → s.state.current = some c)) : Aligned later t := by
  have kept {a : Attempt} {c : Nat} (mem : a ∈ later) (own : a.phase.connection? = some c) :
      a ∈ attempts := by
    refine (left a mem).resolve_right fun starting => ?_
    rw [starting] at own
    cases own
  -- On a connection that has not carried the end of its handshake nothing was said.
  have mute (c : Nat) (short : ∀ later, (s.connection c).said ≠ greeting :: handshakeDone :: later) :
      (t.connection c).said = (s.connection c).said := by
    obtain ⟨more, own, -, since⟩ := said c
    by_cases none : more = []
    · rw [own, none, List.append_nil]
    · obtain ⟨before, there⟩ := aligned.used c (since none)
      exact absurd there (short before)
  refine ⟨?within, ?alone, ?silent, ?greeted, ?used, ?ordered⟩
  case within =>
    exact fun a mem c own => Nat.lt_of_lt_of_le (aligned.within a (kept mem own) c own) length
  case alone =>
    exact fun a mem b mem' c own own' =>
      aligned.alone a (kept mem own) b (kept mem' own') c own own'
  case silent =>
    intro a mem c opening
    have before := aligned.silent a (kept mem (by rw [opening]; rfl)) c opening
    rw [mute c (by rw [before]; nofun), before]
  case greeted =>
    intro a mem c id due handshaking
    obtain ⟨one, before⟩ :=
      aligned.greeted a (kept mem (by rw [handshaking]; rfl)) c id due handshaking
    exact ⟨one, by rw [mute c (by rw [before]; nofun), before]⟩
  case used =>
    intro c here
    obtain ⟨before, there⟩ := aligned.used c (current c here)
    obtain ⟨more, own, -⟩ := said c
    exact ⟨before ++ more, by rw [own, there]; rfl⟩
  case ordered =>
    intro c
    obtain ⟨more, own, everyday, since⟩ := said c
    by_cases none : more = []
    · rw [own, none, List.append_nil]
      exact aligned.ordered c
    · obtain ⟨before, there⟩ := aligned.used c (since none)
      have ordered := aligned.ordered c
      rw [own, there]
      rw [there] at ordered
      exact ordered.append everyday

/-- Routine work leaves a handshake where it is. -/
theorem routine (aligned : Aligned attempts s) (routine : Routine s t)
    (left : ∀ a ∈ later, a ∈ attempts ∨ a.phase = .starting) : Aligned later t :=
  aligned.grow (Nat.le_of_eq routine.length.symm) left routine.current
    fun c => (routine.connection c).said

/-- Nothing said at all. -/
theorem same (aligned : Aligned attempts s)
    (length : s.connections.length ≤ t.connections.length)
    (left : ∀ a ∈ later, a ∈ attempts) (current : t.state.current = s.state.current)
    (said : ∀ c, (t.connection c).said = (s.connection c).said) : Aligned later t :=
  aligned.grow length (fun a mem => .inl (left a mem)) (fun _ here => current ▸ here)
    fun c => ⟨[], (said c).trans (List.append_nil _).symm, nofun, fun some => absurd rfl some⟩

/-- An attempt that has come to another phase. -/
theorem setPhase (aligned : Aligned (s.attempts.filter (·.generation ≠ g)) s) {phase : Phase}
    (within : ∀ c, phase.connection? = some c → c < s.connections.length)
    (alone : ∀ c, phase.connection? = some c → ∀ b ∈ s.attempts, b.phase.connection? = some c →
      b.generation = g)
    (silent : ∀ c, phase = .opening c → (s.connection c).said = [])
    (greeted : ∀ c id due, phase = .handshaking c id due →
      id = 1 ∧ (s.connection c).said = [greeting]) :
    Aligned (s.setPhase g phase).attempts (s.setPhase g phase) := by
  have either {a : Attempt} (mem : a ∈ (s.setPhase g phase).attempts) :
      a ∈ s.attempts.filter (·.generation ≠ g) ∨ a.generation = g ∧ a.phase = phase := by
    obtain ⟨b, own, rfl⟩ := List.mem_map.1 mem
    by_cases same : b.generation = g
    · rw [if_pos same]
      exact .inr ⟨same, rfl⟩
    · rw [if_neg same]
      exact .inl (List.mem_filter.2 ⟨own, by simpa using same⟩)
  have other {a : Attempt} {c : Nat} (mem : a ∈ s.attempts.filter (·.generation ≠ g))
      (own : a.phase.connection? = some c) : phase.connection? ≠ some c := by
    intro shared
    have same := alone c shared a (List.mem_filter.1 mem).1 own
    simpa [same] using (List.mem_filter.1 mem).2
  refine ⟨?within, ?alone, ?silent, ?greeted, aligned.used, aligned.ordered⟩
  case within =>
    intro a mem c own
    rcases either mem with before | ⟨-, now⟩
    · exact aligned.within a before c own
    · exact within c (now ▸ own)
  case alone =>
    intro a mem b mem' c own own'
    rcases either mem with before | ⟨first, now⟩ <;> rcases either mem' with before' | ⟨second, now'⟩
    · exact aligned.alone a before b before' c own own'
    · exact absurd (now' ▸ own') (other before own)
    · exact absurd (now ▸ own) (other before' own')
    · rw [first, second]
  case silent =>
    intro a mem c opening
    rcases either mem with before | ⟨-, now⟩
    · exact aligned.silent a before c opening
    · exact silent c (now.symm.trans opening)
  case greeted =>
    intro a mem c id due handshaking
    rcases either mem with before | ⟨-, now⟩
    · exact aligned.greeted a before c id due handshaking
    · exact greeted c id due (now.symm.trans handshaking)

/-- A session put into use whose handshake has just ended. -/
theorem install (aligned : Aligned attempts s) (length : t.connections = s.connections)
    (current : t.state.current = some c)
    (said : (s.connection c).said = [greeting, handshakeDone]) : Aligned attempts t := by
  have same (d : Nat) : t.connection d = s.connection d := by
    rw [System.connection, length, ← System.connection]
  refine ⟨?_, aligned.alone, ?_, ?_, ?_, ?_⟩
  · rw [length]
    exact aligned.within
  · exact fun a mem d opening => by rw [same]; exact aligned.silent a mem d opening
  · exact fun a mem d id due handshaking => by
      rw [same]; exact aligned.greeted a mem d id due handshaking
  · intro d here
    cases current.symm.trans here
    exact ⟨[], by rw [same, said]⟩
  · exact fun d => by rw [same]; exact aligned.ordered d

end Aligned

/-! ## A message of the handshake -/

/-- A system in which a message was sent on one connection, without a reply coming by it, and
nothing else has happened but that some replies have told more about the server. -/
structure Says (c : Nat) (m : Message) (news : Json → Prop) (s t : System) : Prop where
  rest : t = { s with agenda := t.agenda, connections := t.connections }
  length : t.connections.length = s.connections.length
  said : (t.connection c).said = (s.connection c).said ++ [m]
  others : ∀ d, d ≠ c → (t.connection d).said = (s.connection d).said
  replies : ∀ d id reply, (t.connection d).session.Replied id reply →
    (s.connection d).session.Replied id reply
  informed : ∀ d, (s.connection d).session.Informed (fun reply => d = c ∧ news reply)
    (t.connection d).session

theorem says_exchange {m : Message} {news : Json → Prop} {session : Session} {link : Link Message}
    (within : c < s.connections.length) (own : m.isOwn = true)
    (sent : (s.connection c).link.send m = .ok link)
    (replies : ∀ id reply, session.Replied id reply →
      (s.connection c).session.Replied id reply)
    (informed : (s.connection c).session.Informed news session) :
    Says c m news s (s.exchange c session link) := by
  refine ⟨?rest, ?length, ?said, ?others, ?replies, ?informed⟩
  case rest =>
    unfold System.exchange
    simp only []
    split <;> rfl
  case length =>
    unfold System.exchange
    simp only []
    split <;> exact length_update s c _
  case said =>
    rw [connection_exchange, if_pos ⟨rfl, within⟩, Connection.said_of_send sent]
    simp [own]
  case others =>
    intro d other
    rw [connection_exchange, if_neg fun same => other same.1]
  case replies =>
    intro d id reply there
    rw [connection_exchange] at there
    split at there
    · rename_i same
      rw [same.1]
      exact replies id reply there
    · exact there
  case informed =>
    intro d
    rw [connection_exchange]
    split
    · rename_i same
      rw [same.1]
      exact informed.mono fun _ told => ⟨rfl, told⟩
    · exact .refl _

/-- A message of the handshake of an attempt has been sent, and the attempt has still to go on. -/
structure Shook (a : Attempt) (c : Nat) (told : List Message) (s t : System) : Prop where
  length : t.connections.length = s.connections.length
  attempts : t.attempts = s.attempts
  current : ∀ d, t.state.current = some d → s.state.current = some d
  /-- Everything but the attempt is in order. -/
  left : Aligned (s.attempts.filter (·.generation ≠ a.generation)) t
  told : (t.connection c).said = told
  others : ∀ d, d ≠ c → (t.connection d).said = (s.connection d).said
  replies : ∀ d id reply, (t.connection d).session.Replied id reply →
    (s.connection d).session.Replied id reply
  informed : ∀ d, (s.connection d).session.Informed ((s.connection d).session.Replied 1)
    (t.connection d).session

/-- A message that is next in order on the connection of an attempt. -/
theorem Says.shook {m : Message} {news : Json → Prop} {told : List Message}
    (spoken : Says c m news t u)
    (aligned : Aligned s.attempts s) {a : Attempt} (mem : a ∈ s.attempts)
    (own : a.phase.connection? = some c) (opened : Routine s t) (attempts : t.attempts = s.attempts)
    (quiet : ∀ d, (t.connection d).said = (s.connection d).said)
    (next : (s.connection c).said ++ [m] = told) (ordered : Ordered told)
    (learned : ∀ reply, news reply → (s.connection c).session.Replied 1 reply) :
    Shook a c told s u := by
  have now : (u.connection c).said = told := by rw [spoken.said, quiet, next]
  have others (d : Nat) (other : d ≠ c) : (u.connection d).said = (s.connection d).said :=
    (spoken.others d other).trans (quiet d)
  -- No other attempt has this connection, so nothing has happened on theirs.
  have apart {b : Attempt} {d : Nat} (there : b ∈ s.attempts.filter (·.generation ≠ a.generation))
      (uses : b.phase.connection? = some d) :
      b ∈ s.attempts ∧ (u.connection d).said = (s.connection d).said := by
    obtain ⟨before, different⟩ := List.mem_filter.1 there
    refine ⟨before, others d ?_⟩
    rintro rfl
    exact absurd (aligned.alone b before a mem d uses own) (by simpa using different)
  have current (d : Nat) (here : u.state.current = some d) : s.state.current = some d :=
    opened.current d (by rwa [spoken.rest] at here)
  refine ⟨spoken.length.trans opened.length, ?_, current,
    ⟨?within, ?alone, ?silent, ?greeted, ?used, ?ordered⟩, now, others,
    fun d id reply there => (opened.connection d).replies id reply
      (spoken.replies d id reply there), fun d => ?informed⟩
  · rw [spoken.rest]
    exact attempts
  case informed =>
    refine ((opened.connection d).informed.mono nofun).trans ((spoken.informed d).mono ?_)
    rintro reply ⟨rfl, told⟩
    exact learned reply told
  case within =>
    intro b there d uses
    rw [spoken.length, opened.length]
    exact aligned.within b (apart there uses).1 d uses
  case alone =>
    exact fun b there b' there' d uses uses' =>
      aligned.alone b (apart there uses).1 b' (apart there' uses').1 d uses uses'
  case silent =>
    intro b there d opening
    obtain ⟨before, same⟩ := apart there (by rw [opening]; rfl)
    rw [same]
    exact aligned.silent b before d opening
  case greeted =>
    intro b there d id due handshaking
    obtain ⟨before, same⟩ := apart there (by rw [handshaking]; rfl)
    rw [same]
    exact aligned.greeted b before d id due handshaking
  case used =>
    intro d here
    obtain ⟨later, there⟩ := aligned.used d (current d here)
    by_cases same : d = c
    · subst same
      exact ⟨later ++ [m], by rw [spoken.said, quiet, there]; rfl⟩
    · exact ⟨later, by rw [others d same, there]⟩
  case ordered =>
    intro d
    by_cases same : d = c
    · subst same
      rw [now]
      exact ordered
    · rw [others d same]
      exact aligned.ordered d

end Client.System
end LanguageBridge
