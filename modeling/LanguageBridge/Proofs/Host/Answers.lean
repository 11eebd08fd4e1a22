import LanguageBridge.Proofs.Client.Standing
import LanguageBridge.Proofs.Client.Endings
import LanguageBridge.Proofs.Host.Documents

/-!
# Every command is answered once

The host asks for a feature by a command, and a request runs beside the bridge to answer it.  In the
meantime the host, the editor, the connector and the server do what they like, the clock moves on,
and the jobs of the client have their turns, in any order: a *course* is a list of `Happening`s.
The requests that were made in a course and those that have ended in it are written down beside it
(`Bridge.made`, `Bridge.ended`).

`commands_are_answered` says that these accounts agree with what the host sees, after any course.
Every request has ended once or is still there; the events are those of the endings, one for each
suggestion or hover that was asked for, and one for each signature help that was decoded while the
client lasted; and a request that is still there and has nothing to do right now is owed an answer,
with its timer armed.

## The accounts

`Accounts` is the invariant.  Its clause `once` is a permutation: the requests that have ended,
followed by those that are still there, are those that were made, none lost and none doubled.  What
one happening does to it is `Client.System.Settles`, which says of one step that what ends and what
is left make up what was left before and what is made (`Happening.settles`).  The counts of commands
and events follow from it by counting along the permutation (`Accounts.counted`).

Why an answer may be missing is left to the statement about what is owed: a request that is not
ready waits for a pending reply, and when its time is up it is ready.
-/

namespace LanguageBridge.Host

open Client (Action Ending Job Request System)
open Client.System (Dispatches HostObserves Live Numbered Settles)
open Editor (Feature)

/-! ## Courses

What happens, and what is written down about it: the requests that are made and those that end.
The two lists are read off the states in between, and no operation of the bridge knows of them. -/

/-- Nobody but the bridge asks on behalf of the host. -/
def Deed.Proper : Deed → Prop
  | .client (.ask .host _ _ _ _) => False
  | .client _ => True
  | .command _ => True
  | .line _ => True

/-- What can happen to a bridge while its requests run. -/
inductive Happening where
  | deed (d : Deed) (proper : d.Proper)
  /-- A job of the client has its turn. -/
  | turn (j : Job)

/-- The feature that a command asks for, and the place. -/
def Command.query? : Command → Option (Feature × Editor.Position)
  | .completion place => some (.completion, place)
  | .hover place => some (.hover, place)
  | .signatureHelp place => some (.signatureHelp, place)
  | .setText _ => none
  | .setCursor _ => none
  | .setEndpoint _ => none
  | .setHeader _ => none
  | .getHeader => none
  | .destroy => none

namespace Happening

/-- The feature that the host asks for, and the place. -/
def query? : Happening → Option (Feature × Editor.Position)
  | .deed (.client _) _ => none
  | .deed (.command c) _ => c.query?
  | .deed (.line text) _ => (lineCommand? text).bind Command.query?
  | .turn _ => none

/-- Whether the host asks for a feature. -/
def asks (h : Happening) (f : Feature) : Bool := h.query?.any (·.1 = f)

/-- The request that is made. -/
def request? (b : Bridge) : Happening → Option Request
  | .deed d _ => d.request? b
  | .turn _ => none

/-- The number of the request that runs. -/
def runs? : Happening → Option Nat
  | .deed (.client (.run (.request number))) _ => some number
  | .deed _ _ => none
  | .turn (.request number) => some number
  | .turn _ => none

/-- Whether somebody is made to observe signature help. -/
def setsObserver : Happening → Bool
  | .deed (.client (.setObserver _)) _ => true
  | .deed _ _ => false
  | .turn _ => false

end Happening

namespace Bridge

/-- One thing that happens. -/
def undergo (b : Bridge) : Happening → Bridge
  | .deed d _ => b.act d
  | .turn j => b.having (·.turn j)

/-- Some things that happen one after another. -/
def course (b : Bridge) (hs : List Happening) : Bridge := hs.foldl undergo b

/-- The requests that are made in a course, the first one first. -/
def made (b : Bridge) : List Happening → List Request
  | [] => []
  | h :: hs => (h.request? b).toList ++ (b.undergo h).made hs

/-- The requests that end in a course, the first one first. -/
def ended (b : Bridge) : List Happening → List Ending
  | [] => []
  | h :: hs => b.system.endings (b.undergo h).system ++ (b.undergo h).ended hs

theorem course_concat (b : Bridge) (hs : List Happening) (h : Happening) :
    b.course (hs ++ [h]) = (b.course hs).undergo h := List.foldl_concat ..

theorem made_concat (b : Bridge) (hs : List Happening) (h : Happening) :
    b.made (hs ++ [h]) = b.made hs ++ (h.request? (b.course hs)).toList := by
  induction hs generalizing b with
  | nil => exact List.append_nil _
  | cons g hs ih =>
      rw [List.cons_append, made, ih, made, List.append_assoc]
      rfl

theorem ended_concat (b : Bridge) (hs : List Happening) (h : Happening) :
    b.ended (hs ++ [h])
      = b.ended hs ++ (b.course hs).system.endings ((b.course hs).undergo h).system := by
  induction hs generalizing b with
  | nil => exact List.append_nil _
  | cons g hs ih =>
      rw [List.cons_append, ended, ih, ended, List.append_assoc]
      rfl

end Bridge

/-! ## The requests of the host

A command for a feature makes one request, at the moment at which it is read, for the document of
this moment. -/

section Queries

variable (b : Bridge)

/-- A command for a feature makes one request, and any other makes none. -/
theorem Command.request?_eq (c : Command) :
    c.request? b = c.query?.map fun q => b.asking q.1 q.2 := by
  cases c <;> rfl

/-- What the host asks for is requested for its document, and nothing else is requested for it. -/
theorem Happening.request?_cases (h : Happening) :
    (∃ f place, h.query? = some (f, place) ∧ h.request? b = some (b.asking f place)) ∨
      h.query? = none ∧ ∀ r, h.request? b = some r → r.origin ≠ .host := by
  have asked (c : Option Command) :
      (∃ f place, c.bind Command.query? = some (f, place) ∧
        c.bind (Command.request? b) = some (b.asking f place)) ∨
      c.bind Command.query? = none ∧ ∀ r, c.bind (Command.request? b) = some r → r.origin ≠ .host := by
    cases c with
    | none => exact .inr ⟨rfl, nofun⟩
    | some c =>
        rw [Option.bind_some, Option.bind_some, Command.request?_eq]
        cases query : c.query? with
        | none => exact .inr ⟨rfl, nofun⟩
        | some q => exact .inl ⟨q.1, q.2, rfl, rfl⟩
  cases h with
  | turn j => exact .inr ⟨rfl, nofun⟩
  | deed d proper =>
      cases d with
      | command c => exact asked (some c)
      | line text => exact asked (lineCommand? text)
      | client a =>
          refine .inr ⟨rfl, fun r own => ?_⟩
          cases a with
          | ask origin feature target text place =>
              cases own
              cases origin with
              | host => exact proper.elim
              | editor task => exact nofun
          | _ => cases own

/-- The requests of the host are counted by what it asks for. -/
theorem countP_request? (h : Happening) (f : Feature) :
    (h.request? b).toList.countP (fun r => r.origin = .host ∧ r.feature = f)
      = [h].countP (·.asks f) := by
  rcases h.request?_cases b with ⟨g, place, query, own⟩ | ⟨query, other⟩
  · simp [Happening.asks, query, own, Bridge.asking, List.countP_cons]
  · have none : [h].countP (·.asks f) = 0 := by simp [Happening.asks, query]
    rw [none, List.countP_eq_zero]
    intro r mem
    simp [other r (Option.mem_toList.1 mem)]

/-- As many requests of the host are made for a feature as there are commands for it. -/
theorem countP_made (hs : List Happening) (f : Feature) :
    (b.made hs).countP (fun r => r.origin = .host ∧ r.feature = f) = hs.countP (·.asks f) := by
  induction hs using List.reverseRecOn with
  | nil => rfl
  | append_singleton hs h ih =>
      rw [Bridge.made_concat, List.countP_append, List.countP_append, ih, countP_request?]

/-- A request was made by something that happened. -/
theorem exists_of_mem_made {hs : List Happening} {r : Request} (mem : r ∈ b.made hs) :
    ∃ before h later, hs = before ++ h :: later ∧ h.request? (b.course before) = some r := by
  induction hs using List.reverseRecOn with
  | nil => cases mem
  | append_singleton hs h ih =>
      rw [Bridge.made_concat] at mem
      rcases List.mem_append.1 mem with earlier | own
      · obtain ⟨before, g, later, rfl, made⟩ := ih earlier
        exact ⟨before, g, later ++ [h], by simp, made⟩
      · exact ⟨hs, h, [], rfl, Option.mem_toList.1 own⟩

end Queries

/-! ## What happens to the client

One happening is a deed or a turn.  Either settles requests in the sense of a single step. -/

/-- Echoes answer no requests. -/
theorem settles_echo {s u : System} {made : Option Request} (settles : Settles s made u)
    {echoes : List Event} (plain : ∀ e ∈ echoes, e.feature? = none) :
    Settles s made { u with events := u.events ++ echoes } where
  told := by
    have none : echoes.filter (·.feature?.isSome) = [] :=
      List.filter_eq_nil_iff.2 fun e mem => by rw [plain e mem]; exact Bool.false_ne_true
    show List.filter _ (u.events ++ echoes) = _
    rw [List.filter_append, none, List.append_nil]
    exact settles.told
  kept := settles.kept

section Happenings

variable {b : Bridge}

/-- What the client does settles requests as all its actions do. -/
theorem settles_client (live : Live b.system) (a : Action) :
    Settles b.system (Deed.request? b (.client a)) (b.system.act a) := by
  cases a with
  | ask origin feature target text place => exact .of_anew List.map_append rfl
  | _ => exact live.settles_act fun _ _ _ _ _ => nofun

/-- Requests are numbered as they are made. -/
theorem asked_client (b : Bridge) (a : Action) :
    (b.system.act a).asked = b.system.asked + (Deed.request? b (.client a)).toList.length := by
  cases a with
  | ask origin feature target text place => rfl
  | _ => exact b.system.asked_act fun _ _ _ _ _ => nofun

namespace Happening

theorem new_of_client {a : Action} {r : Request} (own : Deed.request? b (.client a) = some r) :
    r.number = b.system.asked + 1 := by
  cases a with
  | ask origin feature target text place =>
      cases own
      rfl
  | _ => cases own

/-- A request has the next number. -/
theorem new_of_request? {h : Happening} {r : Request} (own : h.request? b = some r) :
    r.number = b.system.asked + 1 := by
  cases h with
  | turn j => cases own
  | deed d proper =>
      have own : d.request? b = some r := own
      cases through b d with
      | client a itself => exact new_of_client (itself ▸ own)
      | acted a echoes plain made idle hidden after => exact new_of_client (made ▸ own)
      | echoed echoes plain none after => cases none.symm.trans own

theorem live (live : Live b.system) (h : Happening) : Live (b.undergo h).system := by
  cases h with
  | turn j => exact live.turn j
  | deed d proper =>
      show Live (b.act d).system
      cases through b d with
      | client a itself => exact itself ▸ live.act a
      | acted a echoes plain made idle hidden after => exact after ▸ (live.act a).shown _
      | echoed echoes plain none after => exact after ▸ live.shown _

/-- Whatever happens, the requests and what the host sees agree. -/
theorem settles (live : Live b.system) (h : Happening) :
    Settles b.system (h.request? b) (b.undergo h).system := by
  cases h with
  | turn j => exact live.settles_turn j
  | deed d proper =>
      show Settles b.system (d.request? b) (b.act d).system
      cases through b d with
      | client a itself => exact itself ▸ settles_client live a
      | acted a echoes plain made idle hidden after =>
          rw [after, made]
          exact settles_echo (settles_client live a) plain
      | echoed echoes plain none after =>
          rw [after, none]
          exact settles_echo (.of_requests rfl rfl) plain

/-- The count of requests goes up with each that is made. -/
theorem asked (b : Bridge) (h : Happening) :
    (b.undergo h).system.asked = b.system.asked + (h.request? b).toList.length := by
  cases h with
  | turn j => exact (b.system.taken j).asked_act (a := .run j) fun _ _ _ _ _ => nofun
  | deed d proper =>
      show (b.act d).system.asked = b.system.asked + (d.request? b).toList.length
      cases through b d with
      | client a itself => exact itself ▸ asked_client b a
      | acted a echoes plain made idle hidden after =>
          rw [after, made]
          exact asked_client b a
      | echoed echoes plain none after =>
          rw [after, none]
          rfl

/-- Whoever waits did so before, or has just run and been sent. -/
theorem dispatched (live : Live b.system) (h : Happening) {r : Request}
    (mem : r ∈ (b.undergo h).system.requests) {c id due : Nat} {lines : UInt32}
    (waiting : r.stage = .waiting c id due lines) :
    r ∈ b.system.requests ∨
      h.runs? = some r.number ∧ Dispatches b.system (b.undergo h).system r c id lines := by
  cases h with
  | turn j =>
      -- The job leaves the agenda before it runs; requests and queues do not see that.
      have numbered : Numbered (b.system.taken j) := ⟨live.numbered.distinct, live.numbered.asked⟩
      refine (Client.System.dispatched_act numbered (a := .run j) mem waiting).imp_right fun sent => ?_
      obtain rfl := Action.run.inj sent.1
      exact ⟨rfl, sent.2⟩
  | deed d proper =>
      have mem : r ∈ (b.act d).system.requests := mem
      cases through b d with
      | client a itself =>
          subst itself
          refine (Client.System.dispatched_act live.numbered mem waiting).imp_right fun sent => ?_
          obtain rfl := sent.1
          exact ⟨rfl, sent.2⟩
      | acted a echoes plain made idle hidden after =>
          rw [after] at mem
          exact .inl ((Client.System.dispatched_act live.numbered (a := a) mem waiting).resolve_right
            fun sent => idle _ sent.1)
      | echoed echoes plain none after =>
          rw [after] at mem
          exact .inl mem

/-- The host observes until somebody else is to. -/
theorem observes (observes : HostObserves b.system) {h : Happening}
    (other : h.setsObserver = false) : HostObserves (b.undergo h).system := by
  cases h with
  | turn j => exact HostObserves.act (s := b.system.taken j) observes (a := .run j) fun _ => nofun
  | deed d proper =>
      show HostObserves (b.act d).system
      cases through b d with
      | client a itself =>
          subst itself
          refine HostObserves.act observes fun observer own => ?_
          subst own
          cases other
      | acted a echoes plain made idle hidden after =>
          rw [after]
          exact HostObserves.act (a := a) observes hidden
      | echoed echoes plain none after =>
          rw [after]
          exact observes

end Happening

end Happenings

/-! ## What has happened to the requests

The accounts over a whole course.  Nothing is said yet about why a request that is still there is
there; that is added at the end. -/

/-- A request has gone out in a course: it ran, and put its own document on the queue of a
connection, behind the preamble of that moment, and itself right behind it. -/
def Dispatched (start : Bridge) (hs : List Happening) (r : Request) (c id : Nat) (lines : UInt32) :
    Prop :=
  ∃ before h later, hs = before ++ h :: later ∧ h.runs? = some r.number ∧
    Dispatches (start.course before).system (start.course (before ++ [h])).system r c id lines

theorem Dispatched.concat {start : Bridge} {hs : List Happening} {r : Request} {c id : Nat}
    {lines : UInt32} (sent : Dispatched start hs r c id lines) (h : Happening) :
    Dispatched start (hs ++ [h]) r c id lines := by
  obtain ⟨before, g, later, rfl, runs⟩ := sent
  exact ⟨before, g, later ++ [h], by simp, runs⟩

/-- The accounts of a course agree with the bridge. -/
structure Accounts (start : Bridge) (hs : List Happening) : Prop where
  live : Live (start.course hs).system
  told : (start.course hs).system.events.filter (·.feature?.isSome)
    = (start.ended hs).filterMap Ending.event?
  once : ((start.ended hs).map (·.request.anew)
    ++ (start.course hs).system.requests.map Request.anew).Perm (start.made hs)
  numbers : (start.made hs).map Request.number = List.range' 1 (start.course hs).system.asked
  dispatched : ∀ r, r ∈ (start.course hs).system.requests ∨ r ∈ (start.ended hs).map Ending.request →
    ∀ c id due lines, r.stage = .waiting c id due lines → Dispatched start hs r c id lines
  observes : (∀ h ∈ hs, h.setsObserver = false) →
    HostObserves (start.course hs).system ∧ ∀ e ∈ start.ended hs, HostObserves e.system

namespace Accounts

variable {start : Bridge} {hs : List Happening}

/-- **One more happening keeps the accounts.** -/
theorem concat (accounts : Accounts start hs) (h : Happening) : Accounts start (hs ++ [h]) := by
  have settles := h.settles accounts.live
  refine ⟨?live, ?told, ?once, ?numbers, ?dispatched, fun other => ?observes⟩ <;>
    simp only [Bridge.course_concat, Bridge.ended_concat, Bridge.made_concat]
  case live => exact h.live accounts.live
  case told => rw [settles.told, accounts.told, List.filterMap_append]
  case once =>
    -- What ends now and what is left make up what was left before and what is made now.
    rw [List.map_append, List.append_assoc]
    refine (settles.kept.append_left _).trans ?_
    rw [← List.append_assoc]
    exact accounts.once.append_right _
  case numbers =>
    rw [List.map_append, accounts.numbers, h.asked]
    cases own : h.request? (start.course hs) with
    | none => exact List.append_nil _
    | some r =>
        show _ ++ [r.number] = List.range' 1 (_ + 1)
        rw [Happening.new_of_request? own, List.range'_1_concat, Nat.add_comm 1]
  case dispatched =>
    intro r there c id due lines waiting
    have before (mem : r ∈ (start.course hs).system.requests) :
        Dispatched start (hs ++ [h]) r c id lines :=
      (accounts.dispatched r (.inl mem) c id due lines waiting).concat h
    rw [List.map_append] at there
    rcases there with left | ended
    · refine (h.dispatched accounts.live left waiting).elim before fun sent => ?_
      exact ⟨hs, h, [], rfl, sent.1, (start.course_concat hs h).symm ▸ sent.2⟩
    · rcases List.mem_append.1 ended with earlier | now
      · exact (accounts.dispatched r (.inr earlier) c id due lines waiting).concat h
      · -- A request ends as it was before it ran for the last time.
        obtain ⟨e, mem, rfl⟩ := List.mem_map.1 now
        exact before (Client.System.mem_endings.1 mem).2.1
  case observes =>
    have earlier := accounts.observes fun g mem => other g (List.mem_append_left _ mem)
    refine ⟨Happening.observes earlier.1 (other h (by simp)), fun e mem => ?_⟩
    rcases List.mem_append.1 mem with before | now
    · exact earlier.2 e before
    · rw [(Client.System.mem_endings.1 now).1]
      exact earlier.1

end Accounts

/-- The accounts of a course agree, from a client that has done nothing. -/
theorem accounts (options : Client.Options) (hs : List Happening) :
    Accounts (.fresh (.fresh options)) hs := by
  induction hs using List.reverseRecOn with
  | nil =>
      refine ⟨(Live.fresh options).act (.setObserver .host), rfl, .refl _, rfl, ?_, fun _ => ⟨rfl, ?_⟩⟩
      · exact fun r there => there.elim (absurd · List.not_mem_nil) (absurd · List.not_mem_nil)
      · exact fun e mem => absurd mem List.not_mem_nil
  | append_singleton hs h ih => exact ih.concat h

/-! ## All of it together -/

/-- How the commands of the host are answered in a course. -/
structure CommandsAnswered (start : Bridge) (hs : List Happening) : Prop where
  /-- No two requests are the same. -/
  distinct : ((start.made hs).map Request.number).Nodup
  /-- Every command for a feature makes one request. -/
  asked : ∀ f, (start.made hs).countP (fun r => r.origin = .host ∧ r.feature = f)
    = hs.countP (·.asks f)
  /-- What is requested for the host is what a command asks for, with the document and the place of
  that moment. -/
  own : ∀ r ∈ start.made hs, r.origin = .host → ∃ before h later f place,
    hs = before ++ h :: later ∧ h.query? = some (f, place) ∧ r = (start.course before).asking f place
  /-- Every request has ended once, or is still there. -/
  once : ((start.ended hs).map (·.request.anew)
    ++ (start.course hs).system.requests.map Request.anew).Perm (start.made hs)
  /-- A request that has been sent was sent with its own document and place. -/
  dispatched : ∀ r, r ∈ (start.course hs).system.requests ∨ r ∈ (start.ended hs).map Ending.request →
    ∀ c id due lines, r.stage = .waiting c id due lines → Dispatched start hs r c id lines
  /-- The events that answer commands are those of the requests that have ended, in that order. -/
  told : (start.course hs).system.events.filter (·.feature?.isSome)
    = (start.ended hs).filterMap Ending.event?
  /-- There are as many suggestions and hovers among the events, and requests for them that are
  still there, as there were commands for them. -/
  counted : ∀ f, f ≠ .signatureHelp →
    (start.course hs).system.events.countP (·.feature? = some f)
      + (start.course hs).system.requests.countP (fun r => r.origin = .host ∧ r.feature = f)
      = hs.countP (·.asks f)
  /-- As long as nobody else is made to observe, a request for signature help ends with one event if
  its reply was decoded before the client was destroyed, and with none otherwise. -/
  signatures : (∀ h ∈ hs, h.setsObserver = false) →
    ∀ e ∈ start.ended hs, e.request.feature = .signatureHelp →
    e.event? = if e.system.state.destroyed then none else e.decoded?.map .ofAnswer
  /-- A suggestion or hover that was asked for by a command is what its reply was decoded to, or
  nothing if there was none. -/
  results : ∀ e ∈ start.ended hs, e.request.origin = .host → e.request.feature ≠ .signatureHelp →
    e.event? = some (.ofAnswer (e.decoded?.getD e.request.feature.nothing))
  /-- A request that is there and not ready waits for a pending answer of a usable session, and its
  timer is armed. -/
  owed : ∀ r ∈ (start.course hs).system.requests,
    .request r.number ∉ (start.course hs).system.agenda.ready →
    ∃ c id due lines, r.stage = .waiting c id due lines ∧
      ((start.course hs).system.connection c).session.disposed = false ∧
      id ∈ ((start.course hs).system.connection c).session.pending ∧
      (start.course hs).system.now < due ∧
      ⟨due, .request r.number⟩ ∈ (start.course hs).system.agenda.timers
  /-- A request whose time is up is ready, and ends when it has its turn. -/
  overdue : ∀ r ∈ (start.course hs).system.requests, ∀ c id due lines,
    r.stage = .waiting c id due lines → due ≤ (start.course hs).system.now →
    .request r.number ∈ (start.course hs).system.agenda.ready ∧
      r.number ∉ (start.course (hs ++ [.turn (.request r.number)])).system.requests.map Request.number

/-- The events for a feature are among those that answer requests. -/
theorem countP_feature? (events : List Event) (f : Feature) :
    events.countP (·.feature? = some f)
      = (events.filter (·.feature?.isSome)).countP (·.feature? = some f) := by
  rw [List.countP_filter]
  refine List.countP_congr fun e _ => ?_
  cases e.feature? <;> simp

namespace Accounts

variable {start : Bridge} {hs : List Happening}

/-- Events and open requests of a kind are as many as commands, as all of them go back to the same
list. -/
theorem counted (accounts : Accounts start hs) {f : Feature} (other : f ≠ .signatureHelp) :
    (start.course hs).system.events.countP (·.feature? = some f)
      + (start.course hs).system.requests.countP (fun r => r.origin = .host ∧ r.feature = f)
      = hs.countP (·.asks f) := by
  have shown : (start.course hs).system.events.countP (·.feature? = some f)
      = ((start.ended hs).map (·.request.anew)).countP
        (fun r => r.origin = .host ∧ r.feature = f) := by
    rw [countP_feature?, accounts.told, Ending.countP_event?, List.countP_map]
    refine List.countP_congr fun e _ => ?_
    -- An ending that is not about signature help is told if the host has asked.
    by_cases asked : e.request.feature = f
    · simp [Ending.isTold, Request.anew, asked, other]
    · simp [Request.anew, asked]
  have running : (start.course hs).system.requests.countP
        (fun r => r.origin = .host ∧ r.feature = f)
      = ((start.course hs).system.requests.map Request.anew).countP
        (fun r => r.origin = .host ∧ r.feature = f) := by
    rw [List.countP_map]
    rfl
  rw [shown, running, ← List.countP_append, accounts.once.countP_eq, countP_made]

/-- Signature help is shown when it was decoded, unless the client was destroyed. -/
theorem signatures (accounts : Accounts start hs) (other : ∀ h ∈ hs, h.setsObserver = false)
    {e : Ending} (mem : e ∈ start.ended hs) (help : e.request.feature = .signatureHelp) :
    e.event? = if e.system.state.destroyed then none else e.decoded?.map .ofAnswer := by
  have observer : e.system.state.observer = if e.system.state.destroyed then none else some .host :=
    (accounts.observes other).2 e mem
  rw [Ending.event?, Ending.isTold, if_pos help, observer, Ending.answer]
  cases e.system.state.destroyed <;> cases e.decoded? <;> rfl

end Accounts

/-- Whatever the host, the editor, the connector and the server do, in any order, every command for
a feature is answered once, with the result for its own document and place, and no request waits for
ever. -/
theorem commands_are_answered (options : Client.Options) (hs : List Happening) :
    CommandsAnswered (.fresh (.fresh options)) hs where
  distinct := by
    rw [(accounts options hs).numbers]
    exact List.nodup_range'
  asked := countP_made _ hs
  own := by
    intro r mem host
    obtain ⟨before, h, later, split, made⟩ := exists_of_mem_made _ mem
    rcases h.request?_cases ((Bridge.fresh (.fresh options)).course before) with
      ⟨f, place, query, own⟩ | ⟨-, other⟩
    · exact ⟨before, h, later, f, place, split, query, Option.some.inj (made.symm.trans own)⟩
    · exact absurd host (other r made)
  once := (accounts options hs).once
  dispatched := (accounts options hs).dispatched
  told := (accounts options hs).told
  counted := fun _ other => (accounts options hs).counted other
  results := fun e _ host other => by
    rw [Ending.event?, Ending.isTold, if_neg other, if_pos (decide_eq_true host), Ending.answer]
  signatures := fun other _ mem help => (accounts options hs).signatures other mem help
  owed := fun _ mem idle => (accounts options hs).live.owed mem idle
  overdue := by
    intro r mem c id due lines waiting up
    have live := (accounts options hs).live
    refine ⟨live.due mem waiting up, ?_⟩
    rw [Bridge.course_concat]
    exact live.ends mem waiting up

/-- A hover that is on its way while the client is destroyed is answered with nothing. -/
example : ((((Bridge.fresh (.fresh .standard)).acts hovering).course
    [.deed (.command .destroy) trivial, .turn (.request 1)]).system.events.filter
      (·.feature?.isSome)) = [.hover none] := by
  cbv

end LanguageBridge.Host
