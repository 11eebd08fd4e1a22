import LanguageBridge.Proofs.Client.Slot
import LanguageBridge.Proofs.Client.Recovery
import LanguageBridge.Proofs.Client.Supersession
import LanguageBridge.Proofs.Server.Faults
import Mathlib.Data.List.Basic

/-!
# What an undecodable reply costs

A request whose reply does not decode is answered with nothing, and neither the generation nor the
count of failed attempts changes.  Whether it costs the session as well is told from the wording of
the failure, as it is with any other failure: only if the fault quotes a text of the reply that
tells of an end, the session in use is dropped and a retry is armed
(`wording_alone_ends_session`).

A reply without content decodes for every feature, so it is none of those meant here.

## How the proof goes

`Undecoded` is a request that has its turn while a reply waits for it that does not decode, and
`Undecoded.run_eq` is everything that then happens: the answer, and the failure of a request as for
any other reason.  The fault comes with its message, of which only the part that it quotes from the
reply can tell of an end (`Undecoded.isStale`); the rest are words of the client's own.  The two
runs at the end differ in nothing but that word.
-/

namespace LanguageBridge.Client.System

open Editor (Answer Subject)
open Json (Fault)
open Failure (tellsOfEnd)

variable {s t : System} {c d : Nat}

/-! ## Failures of requests -/

/-- A forced reconnect does not begin a generation. -/
@[simp] theorem generation_reconnectSoon (s : System) :
    s.reconnectSoon.state.generation = s.state.generation := by
  obtain ⟨agenda, pauses, retry, armed⟩ := reconnectSoon_form s
  rw [armed]

/-- What is recovered from is no failed attempt, and no newer connection has been started yet. -/
theorem counted_recover (s : System) (c : Nat) :
    (s.recover c).state.generation = s.state.generation ∧
      (s.recover c).state.retry.attempts = s.state.retry.attempts := by
  unfold recover
  split
  · split
    · rw [generation_reconnectSoon, attempts_reconnectSoon, state_dispose]
      exact ⟨rfl, rfl⟩
    · exact ⟨rfl, rfl⟩
  · split
    · exact ⟨generation_reconnectSoon s, attempts_reconnectSoon s⟩
    · exact ⟨rfl, rfl⟩

/-- A request that fails begins no generation and does not count. -/
theorem counted_requestFailed (s : System) (c : Nat) (e : Failure) :
    (s.requestFailed c e).state.generation = s.state.generation ∧
      (s.requestFailed c e).state.retry.attempts = s.state.retry.attempts := by
  unfold requestFailed
  split
  · exact counted_recover s c
  · exact ⟨rfl, rfl⟩

/-- A session in use that is recovered from is disposed of. -/
theorem disposed_recover (current : s.state.current = some c) :
    (s.recover c).connections.length = s.connections.length ∧
      ((s.recover c).connection c).session.disposed = true := by
  let r := { s with state := { s.state with current := none } }
  have recovered : s.recover c = (r.dispose c).reconnectSoon := by
    rw [recover, current]
    exact if_pos rfl
  obtain ⟨agenda, pauses, retry, armed⟩ := reconnectSoon_form (r.dispose c)
  rw [recovered, armed]
  exact ⟨(Calm.dispose r c).length, disposed_dispose_self r c⟩

/-- A failure that does not show an end, or that has come up on a session which is not the one in
use while there is one, is without effect. -/
theorem requestFailed_eq_self (current : s.state.current = some c) {e : Failure}
    (harmless : ¬(d = c ∧ e.isStale = true)) : s.requestFailed d e = s := by
  unfold requestFailed
  split
  · rename_i stale
    have other : c ≠ d := fun same => harmless ⟨same.symm, stale⟩
    unfold recover
    rw [current]
    exact if_neg other
  · rfl

/-! ## Undecodable replies -/

/-- A request for whose reply, which has arrived on a connection, there is no answer, because it
does not decode. -/
structure Undecoded (s : System) (r : Request) (d : Nat) (reply : Json) (fault : Fault) :
    Prop where
  found : s.requests.find? (·.number = r.number) = some r
  arrived : ∃ id due lines, r.stage = .waiting d id due lines ∧
    (s.connection d).session.answers.lookup id = some (.ok reply) ∧
    reply.isNull = false ∧
    Answer.ofContent s.state.snippets ⟨r.text, r.place, lines⟩ r.feature reply = .error fault

/-- What is left when a session has lost the answer to one of its requests. -/
structure Collected (d : Nat) (s t : System) : Prop extends Unmoved (some d) s t where
  own : ∃ id, t.connection d =
    { s.connection d with session := ((s.connection d).session.collect id).2 }

/-- A system before and after a request, whose reply on a connection does not decode, has run, while
the session of a connection is in use. -/
structure Spared (s t : System) (r : Request) (c d : Nat) (reply : Json) (fault : Fault) :
    Prop where
  /-- The request is answered with nothing. -/
  told : t.front = (s.answered r r.feature.nothing).front
  /-- What the fault quotes is a text of the reply; a fault of suggestions quotes nothing. -/
  quoted : ∀ text, fault.quoted? = some text → reply.Holds text ∧ r.feature ≠ .completion
  counted : t.alive = true → t.state.generation = s.state.generation ∧
    t.state.retry.attempts = s.state.retry.attempts
  /-- Nothing but the answer is lost, unless a text is quoted that tells of an end. -/
  kept : t.alive = true → ¬(d = c ∧ fault.quoted?.any tellsOfEnd = true) → Collected d s t
  /-- If one is, the session in use is disposed of and a retry is in charge. -/
  dropped : t.alive = true → d = c → fault.quoted?.any tellsOfEnd = true →
    InCharge t .retrying ∧ (t.connection c).session.disposed = true

/-- A system in which a session has handed out the answer to one of its requests. -/
def collected (s : System) (d id : Nat) : System :=
  s.update d fun k => { k with session := ((s.connection d).session.collect id).2 }

theorem calm_collected (s : System) (d id : Nat) : Calm s (s.collected d id) :=
  .update s d (.session (Session.disposed_collect _ id)
    (fun _ waits => Session.pending_collect (s.connection d).session id ▸ waits)
    (fun _ _ there => there.of_collect) (Session.capabilities_collect _ id))

namespace Undecoded

variable {r : Request} {reply : Json} {fault : Fault}

/-- A reply can only have arrived on a connection that there is. -/
theorem within (undecoded : Undecoded s r d reply fault) : d < s.connections.length := by
  obtain ⟨id, due, lines, -, arrived, -⟩ := undecoded.arrived
  refine Nat.lt_of_not_le fun beyond => ?_
  rw [connection_of_length_le s beyond] at arrived
  cases arrived

theorem isStale (undecoded : Undecoded s r d reply fault) :
    (Failure.undecodable fault.message).isStale = fault.quoted?.any tellsOfEnd := by
  obtain ⟨_, _, _, _, _, _, failed⟩ := undecoded.arrived
  exact Answer.isStale_of_undecodable failed

/-- The request runs by collecting its reply and reacting to a failure. -/
theorem run_eq (undecoded : Undecoded s r d reply fault) :
    ∃ id, s.run (.request r.number) =
      ((s.collected d id).requestFailed d (.undecodable fault.message)).finishRequest r
        r.feature.nothing := by
  obtain ⟨id, due, lines, waiting, arrived, content, failed⟩ := undecoded.arrived
  have resumed : (s.connection d).session.resume s.now id due =
      (.over (.ok reply), ((s.connection d).session.collect id).2) := by
    unfold Session.resume Session.collect
    rw [arrived]
  have undecodable : Answer.ofReply s.state.snippets ⟨r.text, r.place, lines⟩ r.feature reply =
      .error (.undecodable fault.message) := by
    rw [Answer.ofReply, content, failed]
    rfl
  refine ⟨id, ?_⟩
  unfold System.run runRequest collected
  simp only [undecoded.found, waiting, resumed]
  unfold settleRequest conclude
  simp only [state_update, undecodable]

/-- All that the outside sees of it is an answer with nothing. -/
theorem front_run (undecoded : Undecoded s r d reply fault) :
    (s.run (.request r.number)).front = (s.answered r r.feature.nothing).front := by
  obtain ⟨id, ran⟩ := undecoded.run_eq
  rw [ran]
  refine (front_finishRequest _ r _).trans (front_answered ?_ r _)
  exact front_requestFailed _ d _

/-- What a fault quotes is a text of the reply, and suggestions quote none. -/
theorem quoted (undecoded : Undecoded s r d reply fault) {text : String}
    (quotes : fault.quoted? = some text) : reply.Holds text ∧ r.feature ≠ .completion := by
  obtain ⟨_, _, _, _, _, _, failed⟩ := undecoded.arrived
  refine ⟨(Answer.quoting_of_ofContent failed).quoted text quotes, ?_⟩
  intro completion
  rw [completion] at failed
  cases (Answer.quoted?_of_completion failed).symm.trans quotes

theorem counted (undecoded : Undecoded s r d reply fault)
    (alive : (s.run (.request r.number)).alive = true) :
    (s.run (.request r.number)).state.generation = s.state.generation ∧
      (s.run (.request r.number)).state.retry.attempts = s.state.retry.attempts := by
  obtain ⟨id, ran⟩ := undecoded.run_eq
  rw [ran] at alive ⊢
  have settled : Unmoved none _ _ := unmoved_finishRequest alive
  rw [settled.state]
  exact counted_requestFailed (s.collected d id) d _

/-- If the failure is without effect, only the answer is lost. -/
theorem kept (undecoded : Undecoded s r d reply fault) (current : s.state.current = some c)
    (alive : (s.run (.request r.number)).alive = true)
    (harmless : ¬(d = c ∧ fault.quoted?.any tellsOfEnd = true)) :
    Collected d s (s.run (.request r.number)) := by
  obtain ⟨id, ran⟩ := undecoded.run_eq
  have used : (s.collected d id).state.current = some c := current
  rw [requestFailed_eq_self used (by rwa [undecoded.isStale])] at ran
  rw [ran] at alive ⊢
  have collected : Unmoved (some d) s (s.collected d id) := (Only.update s rfl _).unmoved
  have settled : Unmoved none (s.collected d id)
      ((s.collected d id).finishRequest r r.feature.nothing) := unmoved_finishRequest alive
  refine ⟨collected.trans (unmoved_finishRequest alive), id, ?_⟩
  rw [settled.connections d ((calm_collected s d id).length.symm ▸ undecoded.within) nofun]
  exact connection_update s _ undecoded.within

/-- If the fault quotes a text that tells of an end, the session in use is lost. -/
theorem dropped {options : Options} (undecoded : Undecoded s r c reply fault)
    (run : Reachable options s) (current : s.state.current = some c)
    (alive : (s.run (.request r.number)).alive = true)
    (ends : fault.quoted?.any tellsOfEnd = true) :
    InCharge (s.run (.request r.number)) .retrying ∧
      ((s.run (.request r.number)).connection c).session.disposed = true := by
  obtain ⟨id, ran⟩ := undecoded.run_eq
  have working := run.working_of_current current
  have calm := calm_collected s c id
  have used : (s.collected c id).state.current = some c := current
  have recovered : (s.collected c id).requestFailed c (.undecodable fault.message) =
      (s.collected c id).recover c := if_pos (undecoded.isStale.trans ends)
  rw [ran, recovered] at alive ⊢
  have settled : Unmoved none ((s.collected c id).recover c)
      (((s.collected c id).recover c).finishRequest r r.feature.nothing) :=
    unmoved_finishRequest alive
  obtain ⟨length, disposed⟩ := disposed_recover used
  have placed : (s.collected c id).state.endpoint.isSome := by
    obtain ⟨held, -⟩ := run.held (run.alive_of_current current) working.lasting
    obtain ⟨a, single, -⟩ := working.watching current
    rw [calm.state, held.endpoint a (by simp [single])]
    rfl
  obtain ⟨unused, token, pending, pausing⟩ := (working.calm calm).retrying_recover used placed
  refine ⟨⟨?_, token, ?_, ?_⟩, ?_⟩
  · rw [settled.state, unused]
  · rw [settled.state, pending]
  · rw [settled.pauses]
    exact pausing
  · rw [settled.connections c (length.symm ▸ calm.length.symm ▸ undecoded.within) nofun]
    exact disposed

end Undecoded

/-- In every run, a request whose reply does not decode is answered with nothing, and neither the
generation nor the count of failed attempts changes.  The session in use is lost with it, and a
retry armed, exactly if the reply has come from that session and the fault quotes a text of the
reply that tells of an end; otherwise nothing else changes.  A fault of suggestions never quotes
anything. -/
theorem wording_alone_ends_session {options : Options} (run : Reachable options s)
    (current : s.state.current = some c) {r : Request} {reply : Json} {fault : Fault}
    (undecoded : Undecoded s r d reply fault) :
    Spared s (s.run (.request r.number)) r c d reply fault where
  told := undecoded.front_run
  quoted := fun _ quotes => undecoded.quoted quotes
  counted := undecoded.counted
  kept := undecoded.kept current
  dropped := by
    rintro alive rfl ends
    exact undecoded.dropped run current alive ends

/-- A client whose server has replied to a hover with a word in place of a range. -/
def misworded (word : String) : System := (System.fresh .standard).acts
  [.connect "one", .run (.attempt 1), .connectorOpened 1 .opened,
    .peerFeed 0 "\x7b\"id\":1,\"result\":\x7b\"capabilities\":\x7b\"hoverProvider\":true\x7d\x7d\x7d",
    .run (.reader 0), .run (.attempt 1), .ask (.editor 1) .hover .held "import os" ⟨1, 1⟩,
    .run (.request 1),
    .peerFeed 0 ("\x7b\"id\":2,\"result\":\x7b\"contents\":\"x\",\"range\":\"" ++ word ++
      "\"\x7d\x7d"),
    .run (.reader 0)]

/-- The request that has asked for that hover. -/
def hovering : Request :=
  ⟨1, .editor 1, .hover, .held, "import os", ⟨1, 1⟩, .waiting 0 2 10000 0⟩

/-- Whatever the word tells of, that reply does not decode. -/
theorem undecoded_misworded {word : String} (known : word = "open" ∨ word = "closed") :
    Undecoded (misworded word) hovering 0
      (.object [("contents", .text "x"), ("range", .text word)])
      (.wrongType (.string word) "struct Range") := by
  rcases known with rfl | rfl
  · exact ⟨by decide +kernel, 2, 10000, 0, rfl, by decide +kernel, rfl, by decide +kernel⟩
  · exact ⟨by decide +kernel, 2, 10000, 0, rfl, by decide +kernel, rfl, by decide +kernel⟩

/-- A word that tells of nothing costs the answer alone. -/
theorem misworded_open_spared :
    (misworded "open").state.current = some 0 ∧
      Undecoded (misworded "open") hovering 0
        (.object [("contents", .text "x"), ("range", .text "open")])
        (.wrongType (.string "open") "struct Range") ∧
      Collected 0 (misworded "open") ((misworded "open").run (.request hovering.number)) := by
  have run : Reachable .standard (misworded "open") := Reachable.fresh.acts _
  have current : (misworded "open").state.current = some 0 := by decide +kernel
  have undecoded := undecoded_misworded (Or.inl (rfl : "open" = "open"))
  have spared := wording_alone_ends_session run current undecoded
  have alive : ((misworded "open").run (.request hovering.number)).alive = true :=
    (alive_of_front undecoded.front_run).trans (by decide +kernel)
  exact ⟨current, undecoded, spared.kept alive (by decide +kernel)⟩

/-- A word that tells of an end costs the session, although that could be used. -/
theorem misworded_closed_not_spared :
    (misworded "closed").state.current = some 0 ∧
      ((misworded "closed").connection 0).session.disposed = false ∧
      ((misworded "closed").connection 0).link.isOpen = true ∧
      (misworded "closed").state.retry.pending = none ∧
      Undecoded (misworded "closed") hovering 0
        (.object [("contents", .text "x"), ("range", .text "closed")])
        (.wrongType (.string "closed") "struct Range") ∧
      ((misworded "closed").run (.request hovering.number)).alive = true ∧
      ((misworded "closed").run (.request hovering.number)).state.current = none ∧
      ((misworded "closed").run (.request hovering.number)).state.retry.pending ≠ none := by
  have run : Reachable .standard (misworded "closed") := Reachable.fresh.acts _
  have current : (misworded "closed").state.current = some 0 := by decide +kernel
  have undecoded := undecoded_misworded (Or.inr (rfl : "closed" = "closed"))
  have alive : ((misworded "closed").run (.request hovering.number)).alive = true :=
    (alive_of_front undecoded.front_run).trans (by decide +kernel)
  obtain ⟨⟨unused, token, pending, -⟩, -⟩ := undecoded.dropped run current alive (by decide +kernel)
  refine ⟨current, by decide +kernel, by decide +kernel, by decide +kernel, undecoded, alive, unused,
    fun none => ?_⟩
  cases none.symm.trans pending

end LanguageBridge.Client.System
