import LanguageBridge.Proofs.Client.Handshake
import LanguageBridge.Proofs.Client.Sending
import LanguageBridge.Proofs.Client.Slot

/-!
# Features that are not advertised

A server says in its reply to the greeting which features it offers.  `asked_as_advertised` follows
that through every run: whatever session a request of the editor comes across, on whatever
connection, a request for a feature goes out only where a reply received on the same connection has
announced the feature, and a document only right in front of such a request.

## How the proof goes

Two things carry this.  What a session knows about its server comes from a reply that its own reader
has received (`Vouched.known`).  And a request that goes out looks at the session in use at the
moment at which it is sent (`System.Serves`).  A queue of which both holds is `Paired`; it is kept
by routine work, by everything that only adds plain frames, and by a document and a request that are
queued together.

An announcement is a fact about the reply itself (`Editor.Feature.AnnouncedBy`): its member for the
provider is there and is neither null nor false.  That the capabilities a session stores say the
same is `Editor.Feature.offeredBy_ofReply`.

## Requests that are not served

A request that no session serves is answered with nothing, and nothing is queued for it (`Refused`).
It leaves the client alone as well, unless it comes across a session that has gone stale: that one
is dropped and a reconnect is armed, before anybody looks at what the server offers.  The last
theorem is such a run, with a hover that the server does not offer and a socket that is closing.
-/

namespace LanguageBridge

open Editor (Feature)

/-! ## Announcements

What a server announces is read off its reply.  A member counts unless it is null or false, so an
object without content, or a zero, is an announcement. -/

namespace Editor.Feature

/-- The member of a reply to the greeting in which a server announces a feature. -/
def provider : Feature → String
  | .completion => "completionProvider"
  | .hover => "hoverProvider"
  | .signatureHelp => "signatureHelpProvider"

/-- A reply to the greeting announces a feature: among the capabilities, or in the reply itself if
it has none, the member of the feature is there and is neither `null` nor `false`. -/
def AnnouncedBy (f : Feature) (reply : Json) : Prop :=
  ∃ v, ((reply.get? "capabilities").getD reply).get? f.provider = some v ∧ v ≠ .null ∧ v ≠ .bool false

theorem offers_iff (member : Option Json) :
    Server.Capabilities.offers member = true ↔
      ∃ v, member = some v ∧ v ≠ .null ∧ v ≠ .bool false := by
  unfold Server.Capabilities.offers
  split <;> simp_all

/-- What is recorded of a reply is what it announces. -/
theorem offeredBy_ofReply (f : Feature) (reply : Json) :
    f.offeredBy (.ofReply reply) = true ↔ f.AnnouncedBy reply := by
  cases f <;> exact offers_iff _

/-- A server of which nothing is known offers nothing. -/
theorem offeredBy_none (f : Feature) : f.offeredBy .none = false := by cases f <;> rfl

end Editor.Feature

/-! ## Queues

A queue is looked at from its end: what has been put there last is a document with its request, or
frames that ask for nothing. -/

namespace Client

/-- A queue on which only some features are asked for, and each document has the request for which
it was sent right behind it. -/
structure Paired (told : Feature → Prop) (queue : List (Outbound Message)) : Prop where
  asked : ∀ id f params, .frame (.request id (Feature.method f) params) ∈ queue → told f
  opened : ∀ (i : Nat) uri languageId text,
    queue[i]? = some (.frame (.didOpen uri languageId text)) →
    ∃ id f place, queue[i + 1]? =
      some (.frame (.request id (Feature.method f) (Message.placeParams uri place)))

namespace Paired

variable {told : Feature → Prop} {queue more : List (Outbound Message)}

theorem of_plain (plain : ∀ m, .frame m ∈ queue → m.Plain) : Paired told queue where
  asked := fun id f params mem => absurd rfl ((plain _ mem).request id f params)
  opened := fun _ uri languageId text here =>
    absurd rfl ((plain _ (List.mem_of_getElem? here)).document uri languageId text)

/-- An empty queue asks for nothing. -/
theorem nil : Paired told [] := of_plain nofun

/-- A document, and the request for which it is sent. -/
theorem pair {f : Feature} (announced : told f) (id : Nat) (uri languageId text : String)
    (place : Server.Position) :
    Paired told [.frame (.didOpen uri languageId text),
      .frame (.request id f.method (Message.placeParams uri place))] where
  asked := by
    intro id' f' params mem
    rcases List.mem_cons.1 mem with document | mem
    · cases document
    · injection Outbound.frame.inj (List.mem_singleton.1 mem) with _ method
      rwa [Feature.method_inj method]
  opened := by
    intro i uri' languageId' text' here
    match i, here with
    | 0, here =>
        cases here
        exact ⟨id, f, place, rfl⟩
    | 1, here => cases here

/-- Two queues in order make one. -/
theorem append (first : Paired told queue) (second : Paired told more) :
    Paired told (queue ++ more) where
  asked := fun id f params mem =>
    (List.mem_append.1 mem).elim (first.asked id f params) (second.asked id f params)
  opened := by
    intro i uri languageId text here
    rcases Nat.lt_or_ge i queue.length with front | back
    · rw [List.getElem?_append_left front] at here
      obtain ⟨id, f, place, next⟩ := first.opened i uri languageId text here
      have within : i + 1 < queue.length := (List.getElem?_eq_some_iff.1 next).1
      exact ⟨id, f, place, by rwa [List.getElem?_append_left within]⟩
    · rw [List.getElem?_append_right back] at here
      obtain ⟨id, f, place, next⟩ := second.opened _ uri languageId text here
      refine ⟨id, f, place, ?_⟩
      rwa [List.getElem?_append_right (Nat.le_succ_of_le back), Nat.succ_sub back]

/-- Whoever is told more may be asked for more. -/
theorem mono {others : Feature → Prop} (paired : Paired told queue)
    (sub : ∀ f, told f → others f) : Paired others queue where
  asked := fun id f params mem => sub f (paired.asked id f params mem)
  opened := paired.opened

/-- A queue that was kept. -/
theorem kept {k k' : Connection} (paired : Paired told k.link.queued) (kept : k.Kept k') :
    Paired told k'.link.queued := by
  obtain ⟨start, more, queued, same, plain⟩ := kept
  have front : Paired told start := by
    rcases same with rfl | rfl
    · exact paired
    · exact nil
  rw [queued]
  exact front.append (of_plain plain)

end Paired

namespace System

variable {s t : System} {c : Nat} {r : Request}

/-! ## What is known of the servers in a run

The knowledge of a session is compared with the history of its connection.  A run grows at its
end, and so does what has been received in it. -/

section Run

variable (start : System) (actions : List Action)

/-- In a run, the reader of a connection has received a reply to the greeting. -/
def Received (c : Nat) (reply : Json) : Prop :=
  ∃ before after, actions = before ++ .run (.reader c) :: after ∧
    (start.acts before).Receives c 1 reply

/-- In a run, a reply to the greeting has been received on a connection that announces a feature. -/
def Announced (c : Nat) (f : Feature) : Prop :=
  ∃ reply, Received start actions c reply ∧ f.AnnouncedBy reply

/-- What the sessions know and what the queues hold has been announced. -/
structure Vouched : Prop where
  replied : ∀ c reply, ((start.acts actions).connection c).session.Replied 1 reply →
    Received start actions c reply
  known : ∀ c, ((start.acts actions).connection c).session.disposed = false →
    ((start.acts actions).connection c).session.capabilities = .none ∨
      ∃ reply, Received start actions c reply ∧
        ((start.acts actions).connection c).session.capabilities = .ofReply reply
  paired : ∀ c, Paired (Announced start actions c) ((start.acts actions).connection c).link.queued

end Run

section Later

variable {start : System} {actions : List Action}

theorem Received.concat {reply : Json} (received : Received start actions c reply) (a : Action) :
    Received start (actions ++ [a]) c reply := by
  obtain ⟨before, after, rfl, receives⟩ := received
  exact ⟨before, after ++ [a], by simp, receives⟩

theorem Announced.concat {f : Feature} (announced : Announced start actions c f) (a : Action) :
    Announced start (actions ++ [a]) c f := by
  obtain ⟨reply, received, announces⟩ := announced
  exact ⟨reply, received.concat a, announces⟩

/-- Whoever serves a request has received a reply that announces its feature. -/
theorem Vouched.announced (vouched : Vouched start actions)
    (serves : Serves (start.acts actions) c r) : Announced start actions c r.feature := by
  have usable := ((Session.inspect_eq_ok_iff _ _).1 serves.usable).1
  have offered := serves.offered
  rcases vouched.known c usable with none | ⟨reply, received, known⟩
  · rw [none, Feature.offeredBy_none] at offered
    cases offered
  · rw [known, Feature.offeredBy_ofReply] at offered
    exact ⟨reply, received, offered⟩

/-- A request that runs puts nothing on a queue but itself behind its document, and only where it is
served. -/
theorem Paired.ran {told : Nat → Feature → Prop}
    (paired : ∀ c, Paired (told c) (s.connection c).link.queued)
    (announced : ∀ c r, Serves s c r → told c r.feature) {number : Nat} (ran : Ran s number t)
    (c : Nat) : Paired (told c) (t.connection c).link.queued := by
  cases ran with
  | kept kept fewer => exact (paired c).kept (kept c)
  | @sent r d id more mem own starting serves queued plain others left =>
      by_cases same : c = d
      · subst same
        have sent : Paired (told c) [.frame (r.opening s c), .frame (r.message s id)] :=
          .pair (announced c r serves) id _ _ _ _
        have all := ((paired c).append sent).append (.of_plain plain)
        rw [queued]
        rwa [List.append_assoc] at all
      · exact (paired c).kept (others c same)

/-- In every run, what a session knows of its server has been received on its own connection. -/
theorem vouched (options : Options) (actions : List Action) : Vouched (.fresh options) actions := by
  induction actions using List.reverseRecOn with
  | nil =>
      have vacant (c : Nat) : (System.acts (.fresh options) []).connection c = .called "" 0 :=
        connection_of_length_le _ (Nat.zero_le c)
      refine ⟨fun c reply there => ?_, fun c usable => ?_, fun c => ?_⟩
      · rw [vacant] at there
        cases there
      · rw [vacant] at usable
        cases usable
      · rw [vacant]
        exact .nil
  | append_singleton actions a ih =>
      have run : Reachable options ((System.fresh options).acts actions) := Reachable.fresh.acts _
      have turn := turn_act run (recorded options actions).aligned a
      refine ⟨fun c reply there => ?replied, fun c usable => ?known, fun c => ?paired⟩
      case replied =>
        rw [acts_concat] at there
        rcases turn.replies c 1 reply there with before | ⟨rfl, receives⟩
        · exact (ih.replied c reply before).concat a
        · exact ⟨actions, [], rfl, receives⟩
      case known =>
        rw [acts_concat] at usable ⊢
        rcases turn.informed c usable with none | ⟨before, same⟩ | ⟨reply, replied, told⟩
        · exact .inl none
        · rw [same]
          exact (ih.known c before).imp_right fun ⟨reply, received, own⟩ =>
            ⟨reply, received.concat a, own⟩
        · exact .inr ⟨reply, (ih.replied c reply replied).concat a, told⟩
      case paired =>
        have before (d : Nat) := (ih.paired d).mono fun f announced => announced.concat a
        rw [acts_concat]
        by_cases runs : ∃ number, a = .run (.request number)
        · obtain ⟨number, rfl⟩ := runs
          exact Paired.ran before (fun d r serves => (ih.announced serves).concat _)
            (ran_runRequest _ number) c
        · exact (before c).kept (kept_act _ (fun number own => runs ⟨number, own⟩) c)

end Later

/-! ## Requests that are not served

A request may find no session, one whose server does not offer the feature, or one that has gone
stale.  It is answered with nothing in each case, and only the last one costs something. -/

@[simp] theorem connections_release (s : System) : s.release.connections = s.connections := by
  unfold release
  split
  · rfl
  · unfold cancelRetry stopPause
    split <;> unfold stopChecks <;> split <;> rfl

@[simp] theorem connections_finishRequest (s : System) (r : Request) (answer : Editor.Answer) :
    (s.finishRequest r answer).connections = s.connections := by
  unfold finishRequest
  rw [connections_release]
  unfold deliver
  split <;> rfl

theorem queued_finishRequest (s : System) (r : Request) (answer : Editor.Answer) (c : Nat) :
    ((s.finishRequest r answer).connection c).link.queued = (s.connection c).link.queued := by
  rw [System.connection, connections_finishRequest]
  rfl

/-- A request that has not been sent does not hold the client. -/
theorem alive_finishRequest (numbered : Numbered s) (alive : s.alive = true) (mem : r ∈ s.requests)
    (starting : r.stage = .starting) (answer : Editor.Answer) :
    (s.finishRequest r answer).alive = true := by
  have same : (s.finishRequest r answer).owned = s.owned := by
    refine (congrArg Front.owned (front_finishRequest s r answer)).trans ?_
    show (s.answered r answer).owned = _
    unfold answered deliver
    split <;> rfl
  have left : (s.finishRequest r answer).requests = s.requests.filter (·.number ≠ r.number) :=
    congrArg Prod.fst (asking_finishRequest s r answer)
  rw [System.alive, Bool.or_eq_true, List.any_eq_true] at alive ⊢
  rw [same, left]
  refine alive.imp_right ?_
  rintro ⟨q, there, waits⟩
  refine ⟨q, List.mem_filter.2 ⟨there, ?_⟩, waits⟩
  rw [decide_eq_true_iff]
  intro own
  obtain rfl := List.inj_on_of_nodup_map numbered.distinct there mem own
  rw [Request.connection?, starting] at waits
  cases waits

/-- Its end does not touch the client either. -/
theorem state_finishRequest (numbered : Numbered s) (alive : s.alive = true) (mem : r ∈ s.requests)
    (starting : r.stage = .starting) (answer : Editor.Answer) :
    (s.finishRequest r answer).state = s.state := by
  have held := alive_finishRequest numbered alive mem starting answer
  unfold finishRequest at held ⊢
  rw [alive_of_front (front_release _)] at held
  rw [release, if_pos held]
  unfold deliver
  split <;> rfl

theorem queued_dispose (s : System) (c d : Nat) :
    ((s.dispose c).connection d).link.queued = (s.connection d).link.queued := by
  unfold dispose
  simp only []
  split
  · rfl
  · rw [connection_wakeAll]
    show ((s.update c Connection.dispose).connection d).link.queued = _
    rw [connection_update_eq]
    split <;> rfl

/-- Whoever recovers from a stale session queues nothing. -/
theorem queued_recover (s : System) (c d : Nat) :
    ((s.recover c).connection d).link.queued = (s.connection d).link.queued := by
  have armed (u : System) : u.reconnectSoon.connection d = u.connection d := by
    obtain ⟨agenda, pauses, retry, same⟩ := reconnectSoon_form u
    rw [same]
    rfl
  unfold recover
  split
  · split
    · rw [armed]
      exact queued_dispose _ c d
    · rfl
  · split
    · rw [armed]
    · rfl

/-- The session in use is that of a connection that was asked for at some endpoint. -/
theorem Reachable.placed {options : Options} (run : Reachable options s)
    (current : s.state.current = some c) : ∃ endpoint, s.state.endpoint = some endpoint := by
  have alive := run.alive_of_current current
  have working := run.working_of_current current
  obtain ⟨⟨a, mem, -⟩, -⟩ := working.current c current
  exact ⟨a.endpoint, (run.held alive working.lasting).1.endpoint a mem⟩

/-- A request that is answered with nothing without having been sent. -/
structure Refused (s t : System) (r : Request) : Prop where
  /-- The outside sees the request taken away and answered, and nothing else. -/
  answered : t.front = (s.answered r r.feature.nothing).front
  queued : ∀ c, (t.connection c).link.queued = (s.connection c).link.queued
  /-- The client, as long as anybody holds it, is left alone, unless the session in use is stale. -/
  kept : s.alive = true →
    (∀ c, s.state.current = some c → (s.connection c).inspect = .ok ()) → t.state = s.state
  /-- A stale session is dropped by every request that finds a provider, and a reconnect after the
  short delay is armed. -/
  dropped : ∀ c e, s.state.current = some c → (s.connection c).inspect = .error e →
    t.state = if s.findsProvider r then
      { s.state with current := none, retry := s.state.retry.scheduleForced.2 } else s.state

section Refusals

variable {options : Options}

/-- A request that is answered before anybody has looked at a stale session. -/
theorem Refused.atOnce (run : Reachable options s) (mem : r ∈ s.requests)
    (starting : r.stage = .starting)
    (lost : ∀ c e, s.state.current = some c → (s.connection c).inspect = .error e →
      s.findsProvider r = false) :
    Refused s (s.finishRequest r r.feature.nothing) r where
  answered := front_finishRequest s r _
  queued := queued_finishRequest s r _
  kept := fun alive _ => state_finishRequest run.numbered alive mem starting _
  dropped := by
    intro c e current stale
    rw [state_finishRequest run.numbered (run.alive_of_current current) mem starting,
      lost c e current stale]
    rfl

/-- A request that has come across a stale session. -/
theorem Refused.recovered {e : Failure} (run : Reachable options s) (mem : r ∈ s.requests)
    (starting : r.stage = .starting) (finds : s.findsProvider r = true)
    (current : s.state.current = some c) (stale : (s.connection c).inspect = .error e) :
    Refused s ((s.recover c).finishRequest r r.feature.nothing) r := by
  have same := front_recover s c
  refine ⟨(front_finishRequest _ r _).trans (front_answered same r _),
    fun d => (queued_finishRequest _ r _ d).trans (queued_recover s c d), fun _ usable => ?kept,
    fun _ _ _ _ => ?dropped⟩
  case kept => cases (usable c current).symm.trans stale
  case dropped =>
    obtain ⟨endpoint, placed⟩ := run.placed current
    have working := run.working_of_current current
    obtain ⟨u, -, recovered⟩ := recover_eq working.pauses working.lasting placed current
    have there : r ∈ (s.recover c).requests := by
      rwa [show (s.recover c).requests = s.requests from congrArg Front.requests same]
    rw [state_finishRequest (run.numbered.of_fewer (.of_asking (asking_of_front same)))
      ((alive_of_front same).trans (run.alive_of_current current)) there starting, if_pos finds,
      recovered]

/-- A request that no session serves is refused. -/
theorem refused_of_unserved (run : Reachable options s) (mem : r ∈ s.requests)
    (starting : r.stage = .starting) (unserved : ∀ c, ¬Serves s c r) :
    Refused s (s.act (.run (.request r.number))) r := by
  have runs : s.act (.run (.request r.number)) = s.startRequest r := by
    show s.runRequest r.number = _
    unfold runRequest
    simp only [run.numbered.find mem, starting]
  rw [runs]
  unfold startRequest
  split
  · rename_i unable
    refine .atOnce run mem starting fun c e current _ => ?_
    simpa [run.alive_of_current current, (run.working_of_current current).lasting] using unable
  · rename_i able
    have finds : s.findsProvider r = true := by
      simp only [Bool.or_eq_true, Bool.not_eq_true', not_or] at able
      exact Bool.not_eq_false _ ▸ able.1.1
    rcases validSession_cases s with
      ⟨none, valid⟩ | ⟨c, current, usable, valid⟩ | ⟨c, e, current, stale, valid⟩ <;> rw [valid]
    · refine .atOnce run mem starting fun c e current _ => ?_
      cases none.symm.trans current
    · simp only []
      rw [if_neg fun offered => unserved c ⟨current, usable, offered⟩]
      refine .atOnce run mem starting fun d e current' stale => ?_
      cases current.symm.trans current'
      cases usable.symm.trans stale
    · exact .recovered run mem starting finds current stale

end Refusals

/-- What is asked for in a run, and what becomes of the rest. -/
structure AsAdvertised (start : System) (actions : List Action) : Prop where
  /-- Wherever a request for a feature was queued, a reply received on the same connection has
  announced the feature. -/
  asked : ∀ c id f params, .frame (.request id (Feature.method f) params) ∈
    ((start.acts actions).connection c).link.queued → Announced start actions c f
  /-- Wherever a document was queued, such a request is next to it. -/
  opened : ∀ c (i : Nat) uri languageId text,
    ((start.acts actions).connection c).link.queued[i]?
      = some (.frame (.didOpen uri languageId text)) →
    ∃ id f place, ((start.acts actions).connection c).link.queued[i + 1]?
      = some (.frame (.request id (Feature.method f) (Message.placeParams uri place)))
  /-- The session in use serves only requests for what was announced on its connection. -/
  served : ∀ c r, Serves (start.acts actions) c r → Announced start actions c r.feature
  /-- Any other request is refused. -/
  refused : ∀ r ∈ (start.acts actions).requests, r.stage = .starting →
    (∀ c, ¬Serves (start.acts actions) c r) →
    Refused (start.acts actions) ((start.acts actions).act (.run (.request r.number))) r

/-- In every run, features that a server has not advertised stay off the wire. -/
theorem asked_as_advertised (options : Options) (actions : List Action) :
    AsAdvertised (.fresh options) actions where
  asked := fun c => ((vouched options actions).paired c).asked
  opened := fun c => ((vouched options actions).paired c).opened
  served := fun _ _ serves => (vouched options actions).announced serves
  refused := fun _ mem starting unserved =>
    refused_of_unserved (Reachable.fresh.acts actions) mem starting unserved

/-- A server that advertises nothing but completions, and begins to close the connection before a
hover is asked for. -/
def closingUnderHover : List Action :=
  [.connect "one", .run (.attempt 1), .connectorOpened 1 .opened,
    .peerFeed 0 "\x7b\"id\":1,\"result\":\x7b\"completionProvider\":\x7b\x7d\x7d\x7d",
    .run (.reader 0), .run (.attempt 1), .peerState 0 .closing,
    .ask (.editor 1) .hover (.registered "python") "x" ⟨1, 1⟩]

/-- The hover is not advertised, and yet the client does not keep its session and its retry. -/
theorem unadvertised_closing_not_spared :
    ∃ r ∈ ((System.fresh .standard).acts closingUnderHover).requests,
      r.feature.offeredBy
        (((System.fresh .standard).acts closingUnderHover).connection 0).session.capabilities = false ∧
      ((System.fresh .standard).acts closingUnderHover).state.current = some 0 ∧
      (((System.fresh .standard).acts closingUnderHover).act
        (.run (.request r.number))).state.current = none ∧
      (((System.fresh .standard).acts closingUnderHover).act
        (.run (.request r.number))).state.retry.pending ≠
          ((System.fresh .standard).acts closingUnderHover).state.retry.pending := by
  refine ⟨⟨1, .editor 1, .hover, .registered "python", "x", ⟨1, 1⟩, .starting⟩, ?_, ?_, ?_, ?_, ?_⟩ <;>
    decide +kernel

end System
end Client
end LanguageBridge
