import LanguageBridge.Proofs.Client.Queues
import LanguageBridge.Proofs.Client.Step
import Mathlib.Data.List.Nodup

/-!
# How a request of the editor is sent

A request that runs for the first time puts two frames behind the queue of the session in use: the
text that it was made with, behind the preamble of this moment, and right after it the request
itself, with its place moved down by the lines of the same preamble.  It remembers these lines while
it waits.

## Main results

* `System.Ran`, `System.ran_runRequest`: what a request that runs can come to.  It ends, it waits
  on, or it is sent, and then `System.Serves` holds of the session on which it is.
* `System.dispatched_act`: a request that is sent by an action is sent in the way described above,
  whatever the action.
* `Reachable.numbered`: the requests that there are have different numbers, all of them given out
  before.

## Which part of a system is looked at

Most actions have nothing to do with requests.  What they leave alone is the *front* of a system,
and `front_act` says so once for all of them; what a request that runs does to the list of requests
is told by `asking` and `Fewer`.
-/

namespace LanguageBridge.Client

open Editor (Answer)

namespace Request

/-- The message that opens the document of a request. -/
def opening (r : Request) (s : System) (c : Nat) : Message :=
  .didOpen s.state.options.documentUri (s.connection c).session.languageId
    (Preamble.inFrontOf s.state.preamble r.text)

/-- The request itself, for its place behind the preamble. -/
def message (r : Request) (s : System) (id : Nat) : Message :=
  .request id r.feature.method (Message.placeParams s.state.options.documentUri
    (Preamble.toServer (Preamble.lines s.state.preamble) r.place))

end Request

namespace System

variable {s t u : System} {number : Nat}

/-! ## The requests that there are

Requests are told apart by their numbers, which are given out in order. -/

/-- Requests that are numbered in the order in which they were made. -/
structure Numbered (s : System) : Prop where
  distinct : (s.requests.map Request.number).Nodup
  asked : ∀ r ∈ s.requests, r.number ≤ s.asked

/-- A request is found by its number. -/
theorem Numbered.find (numbered : Numbered s) {r : Request} (mem : r ∈ s.requests) :
    s.requests.find? (·.number = r.number) = some r := by
  cases found : s.requests.find? (·.number = r.number) with
  | none => simpa using List.find?_eq_none.1 found r mem
  | some q =>
      have same : q.number = r.number := by simpa using List.find?_some found
      have once := List.inj_on_of_nodup_map numbered.distinct (List.mem_of_find?_eq_some found) mem
      rw [once same]

/-- The requests that have not been answered, and how many have ever been made. -/
def asking (s : System) : List Request × Nat := (s.requests, s.asked)

theorem asking_of_front (same : t.front = s.front) : t.asking = s.asking := by
  rw [asking, asking, show t.requests = s.requests from congrArg Front.requests same,
    show t.asked = s.asked from congrArg Front.asked same]

theorem asking_deliver (s : System) (origin : Origin) (answer : Answer) :
    (s.deliver origin answer).asking = s.asking := by
  unfold deliver
  split <;> rfl

theorem asking_finishRequest (s : System) (r : Request) (answer : Answer) :
    (s.finishRequest r answer).asking = (s.requests.filter (·.number ≠ r.number), s.asked) := by
  unfold finishRequest
  rw [asking_of_front (front_release _), asking_deliver]
  rfl

theorem asking_conclude (s : System) (r : Request) (c : Nat) (lines : UInt32)
    (outcome : Outcome) : (s.conclude r c lines outcome).2.asking = s.asking := by
  unfold conclude
  split
  · exact asking_of_front (front_requestFailed s c _)
  · split
    · exact asking_of_front (front_requestFailed s c _)
    · unfold observe
      split <;> rfl
    · rfl

/-- A list of requests of which some may have been answered. -/
structure Fewer (s t : System) : Prop where
  requests : t.requests.Sublist s.requests
  asked : t.asked = s.asked

namespace Fewer

theorem of_asking (same : t.asking = s.asking) : Fewer s t := by
  have requests : t.requests = s.requests := congrArg Prod.fst same
  exact ⟨requests ▸ .refl _, congrArg Prod.snd same⟩

theorem finishRequest (fewer : Fewer s t) (r : Request) (answer : Answer) :
    Fewer s (t.finishRequest r answer) := by
  have same := asking_finishRequest t r answer
  have requests : (t.finishRequest r answer).requests = _ := congrArg Prod.fst same
  exact ⟨requests ▸ List.filter_sublist.trans fewer.requests,
    (congrArg Prod.snd same).trans fewer.asked⟩

theorem settleRequest (fewer : Fewer s t) (r : Request) (c : Nat) (lines : UInt32)
    (outcome : Outcome) : Fewer s (t.settleRequest r c lines outcome) := by
  have same := asking_conclude t r c lines outcome
  have requests : (t.conclude r c lines outcome).2.requests = t.requests := congrArg Prod.fst same
  refine finishRequest ⟨requests ▸ fewer.requests, ?_⟩ r _
  exact (congrArg Prod.snd same).trans fewer.asked

end Fewer

/-! ## A request that runs

The body of `runRequest`, from the question for a session to the two frames that are queued. -/

/-- The session in use on a connection can be used, and its server offers the feature of a
request. -/
structure Serves (s : System) (c : Nat) (r : Request) : Prop where
  current : s.state.current = some c
  usable : (s.connection c).inspect = .ok ()
  offered : r.feature.offeredBy (s.connection c).session.capabilities = true

/-- What a request that runs comes to. -/
inductive Ran (s : System) (number : Nat) (t : System) : Prop
  /-- It waits on, or it is over. -/
  | kept (kept : Kept s t) (fewer : Fewer s t)
  /-- It is sent, and may be over at once. -/
  | sent {r : Request} {c id : Nat} {more : List (Outbound Message)} (mem : r ∈ s.requests)
      (own : r.number = number) (starting : r.stage = .starting) (serves : Serves s c r)
      (queued : (t.connection c).link.queued = (s.connection c).link.queued
        ++ .frame (r.opening s c) :: .frame (r.message s id) :: more)
      (plain : ∀ m, .frame m ∈ more → m.Plain)
      (others : ∀ d, d ≠ c → (s.connection d).Kept (t.connection d))
      (left : Fewer s t ∨ t.asked = s.asked ∧ ∃ due, t.requests = s.requests.map fun q =>
        if q.number = number then
          { q with stage := .waiting c id due (Preamble.lines s.state.preamble) }
        else q) : Ran s number t

namespace Ran

variable {r : Request} {c : Nat}

/-- Two frames behind a queue, and what comes of the connections then.  One that was opened afresh
meanwhile would have a queue without requests. -/
theorem of_kept {id : Nat} (mem : r ∈ s.requests) (own : r.number = number)
    (starting : r.stage = .starting) (serves : Serves s c r)
    (queued : (t.connection c).link.queued = (s.connection c).link.queued
      ++ [.frame (r.opening s c), .frame (r.message s id)])
    (others : ∀ d, d ≠ c → (s.connection d).Kept (t.connection d)) (kept : Kept t u)
    (fewer : Fewer s u) : Ran s number u := by
  have others' : ∀ d, d ≠ c → (s.connection d).Kept (u.connection d) :=
    fun d other => (others d other).trans (kept d)
  obtain ⟨start, more, queued', rfl | rfl, plain⟩ := kept c
  · have longer : (u.connection c).link.queued = (s.connection c).link.queued
        ++ .frame (r.opening s c) :: .frame (r.message s id) :: more := by
      rw [queued', queued, List.append_assoc]
      rfl
    exact .sent mem own starting serves longer plain others' (.inl fewer)
  · refine .kept (fun d => ?_) fewer
    by_cases same : d = c
    · rw [same]
      exact ⟨[], more, queued', .inr rfl, plain⟩
    · exact others' d same

/-- The request sent behind its document.  Where the document went out, the request does as well. -/
theorem sendRequest (mem : r ∈ s.requests) (own : r.number = number) (starting : r.stage = .starting)
    (serves : Serves s c r) {link : Link Message}
    (told : (s.connection c).session.notify (s.connection c).link (r.opening s c) = .ok link)
    (made : t = s.exchange c (s.connection c).session link) :
    Ran s number (t.sendRequest r c (Preamble.lines s.state.preamble)) := by
  have opened := Session.notify_eq told
  have within : c < s.connections.length := lt_length_of_usable
    ((Session.inspect_eq_ok_iff _ _).1 serves.usable).1
  have state : t.state = s.state := made ▸ state_exchange s c _ link
  have own' : t.connection c = { s.connection c with link } := by
    rw [made, connection_exchange, if_pos ⟨rfl, within⟩]
  rcases called : (t.connection c).session.call (t.connection c).link t.now
    (t.connection c).session.requestTimeout r.feature.method
    (Message.placeParams t.state.options.documentUri
      (Preamble.toServer (Preamble.lines s.state.preamble) r.place)) with ⟨call, session, link'⟩
  have asking : (t.exchange c session link').asking = s.asking := by
    rw [asking_of_front (front_exchange t c session link'), made]
    exact asking_of_front (front_exchange s c _ link)
  obtain ⟨sent, outcome⟩ : (t.connection c).link.send _ = .ok link' ∧ _ := by
    rw [own'] at called ⊢
    exact Session.sent_of_notify told called
  have queued : ((t.exchange c session link').connection c).link.queued
      = (s.connection c).link.queued ++ [.frame (r.opening s c),
        .frame (r.message s (s.connection c).session.nextId)] := by
    rw [connection_exchange, if_pos ⟨rfl, by rwa [made, length_exchange]⟩]
    show link'.queued = _
    rw [Link.send_eq sent, own', Link.send_eq opened, List.append_assoc, state]
    rfl
  have others : ∀ d, d ≠ c →
      (s.connection d).Kept ((t.exchange c session link').connection d) := by
    intro d other
    rw [connection_exchange, if_neg fun same => other same.1, made, connection_exchange,
      if_neg fun same => other same.1]
  unfold System.sendRequest
  simp only [called]
  rcases outcome with ⟨e, rfl⟩ | ⟨due, rfl⟩
  · exact .of_kept mem own starting serves queued others ((Kept.refl _).settleRequest r c _ _)
      ((Fewer.of_asking asking).settleRequest r c _ _)
  · have plain (m : Message) (more : .frame m ∈ ([] : List (Outbound Message))) : m.Plain :=
      absurd more List.not_mem_nil
    refine .sent mem own starting serves queued plain others
      (.inr ⟨congrArg Prod.snd asking, due, ?_⟩)
    show (t.exchange c session link').requests.map _ = _
    rw [show (t.exchange c session link').requests = s.requests from congrArg Prod.fst asking, own]

/-- The document sent, and the request behind it. -/
theorem openDocument (mem : r ∈ s.requests) (own : r.number = number)
    (starting : r.stage = .starting) (serves : Serves s c r) :
    Ran s number (s.openDocument r c) := by
  unfold System.openDocument
  simp only []
  rcases notify_cases s c (r.opening s c) with ⟨link, sent, told⟩ | ⟨e, -, told⟩
  · rw [Request.opening] at told
    simp only [told]
    exact .sendRequest mem own starting serves sent rfl
  · rw [Request.opening] at told
    simp only [told]
    exact .kept (((Kept.refl s).requestFailed c e).finishRequest r _)
      ((Fewer.of_asking (asking_of_front (front_requestFailed s c e))).finishRequest r _)

theorem startRequest (mem : r ∈ s.requests) (own : r.number = number)
    (starting : r.stage = .starting) : Ran s number (s.startRequest r) := by
  have failed (answer : Answer) : Ran s number (s.finishRequest r answer) :=
    .kept ((Kept.refl s).finishRequest r answer) ((Fewer.of_asking rfl).finishRequest r answer)
  unfold System.startRequest
  split
  · exact failed _
  · rcases validSession_cases s with ⟨-, valid⟩ | ⟨c, current, usable, valid⟩ | ⟨c, e, -, -, valid⟩
    · rw [valid]
      exact failed _
    · rw [valid]
      simp only []
      split
      · rename_i offered
        exact openDocument mem own starting ⟨current, usable, offered⟩
      · exact failed _
    · rw [valid]
      exact .kept (((Kept.refl s).recover c).finishRequest r _)
        ((Fewer.of_asking (asking_of_front (front_recover s c))).finishRequest r _)

end Ran

/-- What a request that runs comes to. -/
theorem ran_runRequest (s : System) (number : Nat) : Ran s number (s.runRequest number) := by
  unfold runRequest
  split
  · exact .kept (.refl s) (.of_asking rfl)
  · rename_i r found
    have mem := List.mem_of_find?_eq_some found
    have own : r.number = number := by simpa using List.find?_some found
    split
    · rename_i starting
      exact .startRequest mem own starting
    · rename_i c id due lines _
      have looked : Kept s (s.update c fun k =>
          { k with session := ((s.connection c).session.resume s.now id due).2 }) :=
        (Kept.refl s).update c (.of_eq rfl)
      simp only []
      split
      · refine .kept (looked.settleRequest r c lines _) (Fewer.settleRequest ?_ r c lines _)
        exact .of_asking rfl
      · exact .kept looked (.of_asking rfl)

/-- A request goes out between two systems: its document, behind the preamble of this moment, and
the request itself right behind it, moved down by the lines of that preamble. -/
def Dispatches (s t : System) (r : Request) (c id : Nat) (lines : UInt32) : Prop :=
  lines = Preamble.lines s.state.preamble ∧ ∃ more, (t.connection c).link.queued
    = (s.connection c).link.queued ++ .frame (r.opening s c) :: .frame (r.message s id) :: more

/-- Whoever waits after a request has run did so before, or is that request and has been sent. -/
theorem Ran.dispatched (ran : Ran s number t) (numbered : Numbered s) {q : Request}
    (mem : q ∈ t.requests) {c id due : Nat} {lines : UInt32}
    (waiting : q.stage = .waiting c id due lines) :
    q ∈ s.requests ∨ q.number = number ∧ Dispatches s t q c id lines := by
  cases ran with
  | kept kept fewer => exact .inl (fewer.requests.subset mem)
  | @sent r d id' more there own starting serves queued plain others left =>
      rcases left with fewer | ⟨-, due', requests⟩
      · exact .inl (fewer.requests.subset mem)
      · rw [requests] at mem
        obtain ⟨p, before, rfl⟩ := List.mem_map.1 mem
        by_cases same : p.number = number
        · -- Only the request that has run has this number.
          obtain rfl := List.inj_on_of_nodup_map numbered.distinct before there (same.trans own.symm)
          rw [if_pos same] at waiting ⊢
          cases waiting
          exact .inr ⟨own, rfl, more, queued⟩
        · rw [if_neg same]
          exact .inl before

/-! ## Actions

All other actions leave the requests alone, or make one more. -/

/-- Requests are made by being asked for, and a request that runs looks after itself; beside that
the outside sees only the owner let go. -/
theorem front_act (s : System) {a : Action} (other : ∀ number, a ≠ .run (.request number))
    (unasked : ∀ origin feature target text place, a ≠ .ask origin feature target text place) :
    (s.act a).front = { s.front with owned := (s.act a).owned } := by
  have whole (same : (s.act a).front = s.front) :
      (s.act a).front = { s.front with owned := (s.act a).owned } := by
    rw [show (s.act a).owned = s.owned from congrArg Front.owned same]
    exact same
  cases a with
  | connect endpoint => exact whole (front_connect s endpoint)
  | setEndpoint endpoint => exact whole (front_setEndpoint s endpoint)
  | destroy => exact whole (front_destroy s)
  | checkConnected => exact whole (front_isConnected s)
  | updateSettings settings => exact whole (front_updateSettings s settings)
  | setPreamble preamble => exact rfl
  | setSnippets snippets => exact rfl
  | setObserver observer => exact rfl
  | ask origin feature target text place => exact absurd rfl (unasked _ _ _ _ _)
  | disown =>
      have shown : (s.act .disown).front = { s.front with owned := false } :=
        front_release { s with owned := false }
      rw [show (s.act .disown).owned = false from congrArg Front.owned shown]
      exact shown
  | run job =>
      cases job with
      | attempt generation => exact whole (front_runAttempt s generation)
      | reader c => exact whole (front_runReader s c)
      | pause token => exact whole (front_runPause s token)
      | checks id => exact whole (front_runChecks s id)
      | request number => exact absurd rfl (other number)
      | peer c => exact rfl
      | parcel number => exact rfl
  | wait ms => exact rfl
  | connectorFailed generation => exact whole (front_connectorFailed s generation)
  | connectorOpened generation state => exact whole (front_connectorOpened s generation state)
  | peerState c next =>
      obtain ⟨agenda, connections, moved, -⟩ := peerState_eq s c next
      rw [act, moved]
      rfl
  | peerFeed c text => exact whole (Calm.peerFeed s c text).front
  | peerEndFeed c => exact whole (Calm.peerEndFeed s c).front
  | peerGone c => exact whole (Calm.peerGone s c).front
  | peerTake c => exact whole (Calm.peerTake s c).front

/-- Nothing else concerns requests. -/
theorem asking_act (s : System) {a : Action} (other : ∀ number, a ≠ .run (.request number))
    (unasked : ∀ origin feature target text place, a ≠ .ask origin feature target text place) :
    (s.act a).asking = s.asking :=
  congrArg (fun front => (front.requests, front.asked)) (s.front_act other unasked)

/-- Only asking makes requests. -/
theorem asked_act (s : System) {a : Action}
    (unasked : ∀ origin feature target text place, a ≠ .ask origin feature target text place) :
    (s.act a).asked = s.asked := by
  by_cases runs : ∃ number, a = .run (.request number)
  · obtain ⟨number, rfl⟩ := runs
    cases ran_runRequest s number with
    | kept kept fewer => exact fewer.asked
    | sent mem own starting serves queued plain others left => exact left.elim Fewer.asked And.left
  · exact congrArg Prod.snd (s.asking_act (fun number own => runs ⟨number, own⟩) unasked)

/-- Whoever waits did so before, or has just run and been sent. -/
theorem dispatched_act (numbered : Numbered s) {a : Action} {r : Request}
    (mem : r ∈ (s.act a).requests) {c id due : Nat} {lines : UInt32}
    (waiting : r.stage = .waiting c id due lines) :
    r ∈ s.requests ∨ a = .run (.request r.number) ∧ Dispatches s (s.act a) r c id lines := by
  by_cases runs : ∃ number, a = .run (.request number)
  · obtain ⟨number, rfl⟩ := runs
    refine ((ran_runRequest s number).dispatched numbered mem waiting).imp_right fun sent => ?_
    exact ⟨sent.1 ▸ rfl, sent.2⟩
  by_cases asks : ∃ origin feature target text place, a = .ask origin feature target text place
  · obtain ⟨origin, feature, target, text, place, rfl⟩ := asks
    refine .inl ((List.mem_append.1 mem).resolve_right fun new => ?_)
    rw [List.mem_singleton.1 new] at waiting
    cases waiting
  · have requests : (s.act a).requests = s.requests :=
      congrArg Prod.fst (s.asking_act (fun number own => runs ⟨number, own⟩)
        fun origin feature target text place own => asks ⟨origin, feature, target, text, place, own⟩)
    exact .inl (requests ▸ mem)

/-! ## Numbers -/

namespace Numbered

theorem of_fewer (numbered : Numbered s) (fewer : Fewer s t) : Numbered t where
  distinct := (fewer.requests.map _).nodup numbered.distinct
  asked := fun r mem => fewer.asked ▸ numbered.asked r (fewer.requests.subset mem)

/-- A request more, with the next number. -/
theorem append (numbered : Numbered s) {r : Request} (next : r.number = s.asked + 1)
    (requests : t.requests = s.requests ++ [r]) (asked : t.asked = s.asked + 1) : Numbered t where
  distinct := by
    rw [requests, List.map_append, List.map_singleton, List.nodup_append]
    refine ⟨numbered.distinct, by simp, ?_⟩
    intro number mem other single
    obtain ⟨q, own, rfl⟩ := List.mem_map.1 mem
    rw [List.mem_singleton.1 single, next]
    exact Nat.ne_of_lt (Nat.lt_succ_of_le (numbered.asked q own))
  asked := by
    rw [requests, asked]
    intro q mem
    rcases List.mem_append.1 mem with before | own
    · exact Nat.le_succ_of_le (numbered.asked q before)
    · rw [List.mem_singleton.1 own]
      exact Nat.le_of_eq next

theorem ran (numbered : Numbered s) (ran : Ran s number t) : Numbered t := by
  cases ran with
  | kept kept fewer => exact numbered.of_fewer fewer
  | sent mem own starting serves queued plain others left =>
      rcases left with fewer | ⟨asked, due, requests⟩
      · exact numbered.of_fewer fewer
      · refine ⟨?_, ?_⟩
        · rw [requests, List.map_map]
          refine (congrArg List.Nodup (List.map_congr_left fun q _ => ?_)).mpr numbered.distinct
          show Request.number (if q.number = number then _ else q) = q.number
          split <;> rfl
        · rw [requests, asked]
          intro q mem'
          obtain ⟨p, before, rfl⟩ := List.mem_map.1 mem'
          refine Nat.le_trans (Nat.le_of_eq ?_) (numbered.asked p before)
          split <;> rfl

end Numbered

/-- In every run the requests are numbered in the order in which they were made. -/
theorem Reachable.numbered {options : Options} (run : Reachable options s) : Numbered s := by
  induction run with
  | fresh => exact ⟨List.nodup_nil, nofun⟩
  | @act s a _ ih =>
      by_cases runs : ∃ number, a = .run (.request number)
      · obtain ⟨number, rfl⟩ := runs
        exact ih.ran (ran_runRequest s number)
      by_cases asks : ∃ origin feature target text place, a = .ask origin feature target text place
      · obtain ⟨origin, feature, target, text, place, rfl⟩ := asks
        exact ih.append rfl rfl rfl
      · exact ih.of_fewer (.of_asking (s.asking_act (fun number own => runs ⟨number, own⟩)
          fun origin feature target text place own =>
            asks ⟨origin, feature, target, text, place, own⟩))

/-! ## Hovering -/

/-- What whoever has asked for a hover has been told. -/
def Told (s t : System) (result : Option Editor.Hover) : Origin → Prop
  | .editor task => t.answers = s.answers ++ [(task, .hover result)]
  | .host => t.events = s.events ++ [.hover result]

theorem told_finishRequest (s : System) (r : Request) (result : Option Editor.Hover) :
    Told s (s.finishRequest r (.hover result)) result r.origin := by
  have shown := front_release (({ s with
    requests := s.requests.filter (·.number ≠ r.number) }.forget (.request r.number)).deliver
      r.origin (.hover result))
  unfold finishRequest Told
  split
  · rename_i task own
    rw [own] at shown ⊢
    exact congrArg Front.answers shown
  · rename_i own
    rw [own] at shown ⊢
    exact congrArg Front.events shown

/-- The reply to a hover is turned into an answer with the lines that the request remembers. -/
theorem told_runRequest {r : Request} {c id due : Nat} {lines : UInt32} {reply : Json}
    {session : Session} {h : Server.Hover}
    (found : s.requests.find? (·.number = number) = some r)
    (waiting : r.stage = .waiting c id due lines) (feature : r.feature = .hover)
    (resumed : (s.connection c).session.resume s.now id due = (.over (.ok reply), session))
    (content : reply.isNull = false) (decoded : Server.Hover.decoder.ofValue reply = .ok h) :
    Told s (s.runRequest number) (Editor.Hover.ofServer? lines h) r.origin := by
  have answer (snippets : List Editor.Snippet) :
      Answer.ofReply snippets ⟨r.text, r.place, lines⟩ .hover reply
        = .ok (.hover (Editor.Hover.ofServer? lines h)) := by
    rw [Answer.ofReply, if_neg (Bool.eq_false_iff.1 content), Answer.ofContent, decoded]
    rfl
  unfold runRequest
  simp only [found, waiting, resumed, settleRequest, conclude, feature, answer]
  exact told_finishRequest (s.update c fun k => { k with session }) r _

end System
end LanguageBridge.Client
