import LanguageBridge.Proofs.Client.Live
import LanguageBridge.Proofs.Client.Undecodable

/-!
# How requests end

A request ends when it has run for the last time.  What it ends with can be told from the request
and the system in which it ran (`Ending`): a reply that was waiting for it and decodes makes the
answer, and in every other case there is nothing to tell.  The host learns of it by one event at
most (`Ending.event?`): it is given its own suggestions and hovers whatever they are, and signature
help, whoever has asked for it, as long as it is the observer.

## Main definitions

* `Ending.answer`: what a request ends with, of the kind that it has asked for (`feature_answer`).
* `Ending.event?`: what the host learns of it, of the same kind again (`feature?_event?`).
* `System.endings`: the requests that a step has ended, read off the systems on both sides of it.
* `System.Settles`: a step that makes at most one request, and tells the host of features exactly
  what its endings amount to.

## How the proof goes

A request that is left over after a step may have moved on to another stage, so lists of requests
are compared with their stages set back (`Request.anew`).  `Settles` is proved for a request that
has its turn from the four things that it can come to (`Comes.settles`), and for every other action
from the fact that it neither ends requests nor shows the host an answer (`Arranged.settles`).  The
number of events then is the number of endings that are told (`countP_event?`).
-/

namespace LanguageBridge

open Editor (Answer Feature)

/-- The feature that an event answers a request for. -/
def Host.Event.feature? : Host.Event → Option Feature
  | .completion _ => some .completion
  | .hover _ => some .hover
  | .signatureHelp _ => some .signatureHelp
  | .currentText _ => none
  | .currentCursor _ => none
  | .currentHeader _ => none
  | .warning _ => none

/-- The event that gives an answer to the host. -/
def Host.Event.ofAnswer : Answer → Host.Event
  | .completion list => .completion list
  | .hover result => .hover result
  | .signatureHelp help => .signatureHelp help

theorem Host.Event.feature?_ofAnswer (answer : Answer) :
    (ofAnswer answer).feature? = some answer.feature := by
  cases answer <;> rfl

namespace Editor.Answer

/-- A reply that decodes makes an answer of the kind that was asked for. -/
theorem feature_ofContent {snippets : List Snippet} {subject : Subject} {f : Feature} {reply : Json}
    {answer : Answer} (decoded : Answer.ofContent snippets subject f reply = .ok answer) :
    answer.feature = f := by
  cases f with
  | completion =>
      unfold Answer.ofContent at decoded
      cases read : Server.CompletionReply.decoder.ofValue reply with
      | error e =>
          rw [read] at decoded
          cases decoded
      | ok r =>
          rw [read] at decoded
          cases decoded
          rfl
  | hover =>
      unfold Answer.ofContent at decoded
      cases read : Server.Hover.decoder.ofValue reply with
      | error e =>
          rw [read] at decoded
          cases decoded
      | ok h =>
          rw [read] at decoded
          cases decoded
          rfl
  | signatureHelp =>
      unfold Answer.ofContent at decoded
      cases read : Server.SignatureHelp.decoder.ofValue reply with
      | error e =>
          rw [read] at decoded
          cases decoded
      | ok h =>
          rw [read] at decoded
          cases decoded
          rfl

/-- A reply is answered in kind. -/
theorem feature_ofReply {snippets : List Snippet} {subject : Subject} {f : Feature} {reply : Json}
    {answer : Answer} (decoded : Answer.ofReply snippets subject f reply = .ok answer) :
    answer.feature = f := by
  unfold Answer.ofReply at decoded
  split at decoded
  · cases decoded
    cases f <;> rfl
  · cases content : Answer.ofContent snippets subject f reply with
    | error fault =>
        rw [content] at decoded
        cases decoded
    | ok found =>
        rw [content] at decoded
        cases decoded
        exact feature_ofContent content

end Editor.Answer

namespace Client

/-- The request as it was made. -/
def Request.anew (r : Request) : Request := { r with stage := .starting }

/-- A request as it was when it ran for the last time, and the system in which it did. -/
structure Ending where
  request : Request
  system : System

namespace Ending

/-- The answer that the reply to the request decodes to, if one was waiting and it does. -/
def decoded? (e : Ending) : Option Answer :=
  match e.request.stage with
  | .starting => none
  | .waiting c id due lines =>
    match ((e.system.connection c).session.resume e.system.now id due).1 with
    | .waiting _ _ => none
    | .over (.error _) => none
    | .over (.ok reply) =>
      (Answer.ofReply e.system.state.snippets ⟨e.request.text, e.request.place, lines⟩
        e.request.feature reply).toOption

/-- The answer. -/
def answer (e : Ending) : Answer := e.decoded?.getD e.request.feature.nothing

/-- Whether the host is told: of its own suggestions and hovers in any case, and of signature help,
whoever has asked for it, if there is a decoded reply and the host observes. -/
def isTold (e : Ending) : Bool :=
  if e.request.feature = .signatureHelp then
    e.decoded?.isSome && e.system.state.observer = some .host
  else e.request.origin = .host

/-- The event for the host. -/
def event? (e : Ending) : Option Host.Event :=
  if e.isTold then some (.ofAnswer e.answer) else none

/-- A request is answered in its own kind. -/
theorem feature_answer (e : Ending) : e.answer.feature = e.request.feature := by
  unfold answer
  cases decoded : e.decoded? with
  | none => exact Editor.Answer.feature_nothing _
  | some answer =>
      unfold decoded? at decoded
      split at decoded
      · cases decoded
      · split at decoded
        · cases decoded
        · cases decoded
        · rename_i reply _
          cases shaped : Answer.ofReply e.system.state.snippets ⟨e.request.text, e.request.place, _⟩
              e.request.feature reply with
          | error failure =>
              rw [shaped] at decoded
              cases decoded
          | ok found =>
              rw [shaped] at decoded
              cases decoded
              exact Editor.Answer.feature_ofReply shaped

/-- An event is of the kind that was asked for. -/
theorem feature?_event? {e : Ending} {event : Host.Event} (told : e.event? = some event) :
    event.feature? = some e.request.feature := by
  unfold event? at told
  split at told
  · cases told
    rw [Host.Event.feature?_ofAnswer, feature_answer]
  · cases told

/-- The events for some endings, counted by what was asked for. -/
theorem countP_event? (es : List Ending) (f : Feature) :
    (es.filterMap event?).countP (·.feature? = some f)
      = es.countP fun e => e.request.feature = f ∧ e.isTold := by
  rw [List.countP_filterMap]
  refine List.countP_congr fun e _ => ?_
  unfold event?
  cases e.isTold <;> simp [Host.Event.feature?_ofAnswer, feature_answer]

end Ending

namespace System

variable {s t u : System} {r : Request} {rs : List Request}

/-- The requests that have ended between two systems. -/
def endings (s u : System) : List Ending :=
  (s.requests.filter fun r => r.number ∉ u.requests.map Request.number).map (Ending.mk · s)

/-- The requests that a step ends are those that it does not leave over. -/
theorem mem_endings {e : Ending} : e ∈ s.endings u ↔
    e.system = s ∧ e.request ∈ s.requests ∧ e.request.number ∉ u.requests.map Request.number := by
  constructor
  · intro mem
    obtain ⟨r, there, rfl⟩ := List.mem_map.1 mem
    exact ⟨rfl, (List.mem_filter.1 there).1, of_decide_eq_true (List.mem_filter.1 there).2⟩
  · rintro ⟨rfl, there, gone⟩
    exact List.mem_map.2 ⟨e.request, List.mem_filter.2 ⟨there, decide_eq_true gone⟩, rfl⟩

/-! ## What is left of a request

A list of requests after a step, compared with the one before.  Stages are left out of the
comparison, so a request that has only moved on counts as the same. -/

/-- What the host sees and what becomes of the requests between two systems agree; `made` is the
request that is made meanwhile, if there is one. -/
structure Settles (s : System) (made : Option Request) (u : System) : Prop where
  /-- The events that answer requests are those of the requests that have ended. -/
  told : u.events.filter (·.feature?.isSome)
    = s.events.filter (·.feature?.isSome) ++ (s.endings u).filterMap Ending.event?
  /-- Every request has either ended or is still there. -/
  kept : ((s.endings u).map (·.request.anew) ++ u.requests.map Request.anew).Perm
    (s.requests.map Request.anew ++ made.toList)

/-- No request has ended while all of them are there, however far they have come. -/
theorem endings_of_anew {made : List Request}
    (same : u.requests.map Request.anew = s.requests.map Request.anew ++ made) :
    s.endings u = [] := by
  have numbers : u.requests.map Request.number
      = s.requests.map Request.number ++ made.map Request.number := by
    have mapped := congrArg (List.map Request.number) same
    rwa [List.map_append, List.map_map, List.map_map] at mapped
  rw [endings, numbers, List.filter_eq_nil_iff.2, List.map_nil]
  intro r mem
  rw [decide_eq_true_eq, not_not]
  exact List.mem_append_left _ (List.mem_map_of_mem mem)

theorem Settles.of_anew {made : Option Request}
    (same : u.requests.map Request.anew = s.requests.map Request.anew ++ made.toList)
    (told : u.events.filter (·.feature?.isSome) = s.events.filter (·.feature?.isSome)) :
    Settles s made u where
  told := by rw [told, endings_of_anew same, List.filterMap_nil, List.append_nil]
  kept := by rw [endings_of_anew same, same]; exact .refl _

theorem Settles.of_requests (requests : u.requests = s.requests)
    (told : u.events.filter (·.feature?.isSome) = s.events.filter (·.feature?.isSome)) :
    Settles s none u :=
  .of_anew (by rw [requests, Option.toList_none, List.append_nil]) told

/-- Whether a job is on the agenda does not matter. -/
theorem Settles.of_taken {j : Job} {made : Option Request} (settles : Settles (s.taken j) made u) :
    Settles s made u where
  told := by
    refine settles.told.trans (congrArg _ ?_)
    rw [endings, endings, List.filterMap_map, List.filterMap_map]
    rfl
  kept := by
    have kept := settles.kept
    rw [endings, List.map_map] at kept
    rw [endings, List.map_map]
    exact kept

/-- A request is the only one with its number. -/
theorem Numbered.filter (numbered : Numbered s) (mem : r ∈ s.requests) :
    s.requests.filter (·.number = r.number) = [r] := by
  have same : s.requests.filter (·.number = r.number) = s.requests.filter (· = r) := by
    refine List.filter_congr fun q there => decide_eq_decide.2 ⟨fun own => ?_, fun own => by rw [own]⟩
    exact List.inj_on_of_nodup_map numbered.distinct there mem own
  rw [same, List.filter_eq, List.count_eq_one_of_mem (List.Nodup.of_map _ numbered.distinct) mem]
  rfl

/-- A request that has ended alone. -/
theorem endings_of_besides (numbered : Numbered s) (mem : r ∈ s.requests)
    (left : u.requests = s.besides r.number) : s.endings u = [⟨r, s⟩] := by
  have gone : (s.requests.filter fun q => q.number ∉ u.requests.map Request.number)
      = s.requests.filter (·.number = r.number) := by
    refine List.filter_congr fun q there => decide_eq_decide.2 ?_
    rw [left]
    constructor
    · intro absent
      by_contra other
      exact absent (List.mem_map_of_mem (mem_besides.2 ⟨there, other⟩))
    · intro own here
      obtain ⟨p, besides, same⟩ := List.mem_map.1 here
      exact (mem_besides.1 besides).2 (same.trans own)
  rw [endings, gone, numbered.filter mem, List.map_singleton]

theorem Settles.of_besides (numbered : Numbered s) (mem : r ∈ s.requests)
    (left : u.requests = s.besides r.number)
    (told : u.events = s.events ++ (Ending.mk r s).event?.toList) : Settles s none u where
  told := by
    rw [told, endings_of_besides numbered mem left, List.filter_append]
    congr 1
    cases event : (Ending.mk r s).event? with
    | none => simp [event]
    | some e => simp [event, Ending.feature?_event? event]
  kept := by
    rw [endings_of_besides numbered mem left, left, besides, List.map_singleton,
      ← List.map_singleton, ← List.map_append, ← numbered.filter mem, Option.toList_none,
      List.append_nil]
    refine List.Perm.map _ ?_
    simpa using List.filter_append_perm (·.number = r.number) s.requests

/-! ## The events of a request that has its turn

A request is followed to the one place where it ends.  There its reply is decoded, the answer
given to whoever asked, and the host shown what concerns it. -/

theorem events_answered (s : System) (r : Request) (answer : Answer) :
    (s.answered r answer).events = s.events ++
      if r.origin = .host ∧ answer.feature ≠ .signatureHelp then [.ofAnswer answer] else [] := by
  unfold answered deliver
  split
  · rename_i task answer guest
    simp [guest]
  · rename_i list host
    simp [host, Editor.Answer.feature, Host.Event.ofAnswer]
  · rename_i result host
    simp [host, Editor.Answer.feature, Host.Event.ofAnswer]
  · rename_i help host
    simp [Editor.Answer.feature]

/-- Whoever has asked gets an answer that no reply has led to, and any answer but signature help. -/
theorem toList_event? {e : Ending}
    (plain : e.decoded? = none ∨ e.request.feature ≠ .signatureHelp) :
    e.event?.toList = if e.request.origin = .host ∧ e.answer.feature ≠ .signatureHelp then
      [.ofAnswer e.answer] else [] := by
  rw [e.feature_answer, Ending.event?, Ending.isTold]
  by_cases help : e.request.feature = .signatureHelp
  · simp [help, plain.resolve_right (not_not_intro help)]
  · by_cases host : e.request.origin = .host <;> simp [help, host]

theorem events_observe (s : System) (help : Editor.SignatureHelp) :
    (s.observe help).events = s.events ++
      if s.state.observer = some .host then [.signatureHelp help] else [] := by
  unfold observe
  split
  · rename_i none
    simp [none]
  · rename_i host
    simp [host]
  · rename_i recorder
    simp [recorder]

/-- A request that is over, with the answer that it ends with. -/
theorem events_of_plain {e : Ending} (front : t.front = e.system.front)
    (plain : e.decoded? = none ∨ e.request.feature ≠ .signatureHelp) :
    (t.finishRequest e.request e.answer).events = e.system.events ++ e.event?.toList := by
  have shown := congrArg Front.events (front_finishRequest t e.request e.answer)
  have before : t.events = e.system.events := congrArg Front.events front
  refine shown.trans ?_
  show (t.answered e.request e.answer).events = _
  rw [events_answered, before, toList_event? plain]

/-- What the host is told of a call that is over. -/
theorem events_settleRequest {c id due : Nat} {lines : UInt32} {outcome : Outcome}
    (waiting : r.stage = .waiting c id due lines)
    (resumed : ((s.connection c).session.resume s.now id due).1 = .over outcome)
    (front : t.front = s.front) (state : t.state = s.state) :
    (t.settleRequest r c lines outcome).events = s.events ++ (Ending.mk r s).event?.toList := by
  have failed (e : Failure) (none : (Ending.mk r s).decoded? = none) :
      ((t.requestFailed c e).finishRequest r r.feature.nothing).events
        = s.events ++ (Ending.mk r s).event?.toList := by
    have nothing : (Ending.mk r s).answer = r.feature.nothing := by rw [Ending.answer, none]; rfl
    rw [← nothing]
    exact events_of_plain ((front_requestFailed t c e).trans front) (.inl none)
  unfold settleRequest conclude
  rw [state]
  cases outcome with
  | error e =>
      refine failed e ?_
      simp only [Ending.decoded?, waiting, resumed]
  | ok reply =>
      cases shaped : Answer.ofReply s.state.snippets ⟨r.text, r.place, lines⟩ r.feature reply with
      | error e =>
          -- A reply that does not decode ends the request like one that never came.
          simp only [shaped]
          refine failed e ?_
          simp only [Ending.decoded?, waiting, resumed, shaped]
          rfl
      | ok answer =>
          have decoded : (Ending.mk r s).decoded? = some answer := by
            simp only [Ending.decoded?, waiting, resumed, shaped]
            rfl
          have own : (Ending.mk r s).answer = answer := by rw [Ending.answer, decoded]; rfl
          have kind := Editor.Answer.feature_ofReply shaped
          simp only [shaped]
          have plain (other : answer.feature ≠ .signatureHelp) :
              (t.finishRequest r answer).events = s.events ++ (Ending.mk r s).event?.toList := by
            have told := events_of_plain (e := ⟨r, s⟩) front (.inr (kind ▸ other))
            rwa [own] at told
          cases answer with
          | completion list => exact plain nofun
          | hover result => exact plain nofun
          | signatureHelp help =>
              -- The observer is shown it before the request is over, and nobody else is.
              have asked : r.feature = .signatureHelp := kind.symm
              have shown := congrArg Front.events
                (front_finishRequest (t.observe help) r (.signatureHelp help))
              have before : t.events = s.events := congrArg Front.events front
              refine shown.trans ?_
              show ((t.observe help).answered r (.signatureHelp help)).events = _
              rw [events_answered, events_observe, before, state, Ending.event?, Ending.isTold,
                if_pos asked, decoded, own]
              by_cases host : s.state.observer = some .host <;>
                simp [host, Editor.Answer.feature, Host.Event.ofAnswer]

/-- What a request comes to agrees with what the host sees of it. -/
theorem Comes.settles (comes : Comes rs s r u) (numbered : Numbered s) (mem : r ∈ s.requests) :
    Settles s none u := by
  cases comes with
  | refused starting front attended =>
      refine .of_besides numbered mem (requests_finishRequest front) ?_
      have none : (Ending.mk r s).decoded? = none := by simp only [Ending.decoded?, starting]
      have nothing : (Ending.mk r s).answer = r.feature.nothing := by rw [Ending.answer, none]; rfl
      rw [← nothing]
      exact events_of_plain front (.inl none)
  | @sent t c id due lines starting front attended current attempts unused minds early =>
      -- It has come further, but as it was made it is the same.
      refine .of_anew ?_ (congrArg (List.filter _) (congrArg Front.events front))
      show List.map Request.anew (List.map _ t.requests) = _
      rw [show t.requests = s.requests from congrArg Front.requests front, List.map_map,
        Option.toList_none, List.append_nil]
      refine List.map_congr_left fun q _ => ?_
      show Request.anew (if q.number = r.number then _ else q) = q.anew
      split <;> rfl
  | settled waiting resumed front state attended =>
      exact .of_besides numbered mem (requests_settleRequest front)
        (events_settleRequest waiting resumed front state)
  | waits waiting unanswered early => exact .of_requests rfl rfl

/-! ## Whatever happens

A request that is asked for is left out, since it is the one thing that makes requests more.  Of
the rest, only the turn of a request can end it; all others leave the front of the client alone. -/

/-- A request that runs, while the others are looked after. -/
theorem Arranged.settles (arranged : Arranged s) {number : Nat}
    (others : Attended (s.besides number) s) : Settles s none (s.act (.run (.request number))) := by
  cases found : s.requests.find? (·.number = number) with
  | none =>
      rw [show s.act (.run (.request number)) = s from runRequest_of_none found]
      exact .of_requests rfl rfl
  | some r =>
      have mem := List.mem_of_find?_eq_some found
      obtain rfl : r.number = number := by simpa using List.find?_some found
      exact (arranged.comes mem others).settles arranged.numbered mem

namespace Live

/-- Requests end only with what the host is told, whatever is done but asking for more. -/
theorem settles_act (live : Live s) {a : Action}
    (unasked : ∀ origin feature target text place, a ≠ .ask origin feature target text place) :
    Settles s none (s.act a) := by
  by_cases runs : ∃ number, a = .run (.request number)
  · obtain ⟨number, rfl⟩ := runs
    exact live.toArranged.settles (live.besides number rfl rfl fun _ _ => id)
  · have front := s.front_act (fun number own => runs ⟨number, own⟩) unasked
    exact .of_requests (congrArg Front.requests front)
      (congrArg (List.filter _) (congrArg Front.events front))

/-- The same for a job that has its turn. -/
theorem settles_turn (live : Live s) (j : Job) : Settles s none (s.turn j) := by
  by_cases asks : ∃ number, j = .request number
  · obtain ⟨number, rfl⟩ := asks
    exact ((live.toArranged.agenda _).settles (live.besides_taken number)).of_taken
  · have taken := live.taken fun number own => asks ⟨number, own⟩
    exact (taken.settles_act (a := .run j) fun _ _ _ _ _ => nofun).of_taken

end Live
end System
end Client
end LanguageBridge
