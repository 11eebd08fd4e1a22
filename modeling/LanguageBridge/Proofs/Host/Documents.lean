import LanguageBridge.Host.Bridge
import LanguageBridge.Proofs.Client.Endings
import Mathlib.Data.List.Induction

/-!
# Every request travels with its own document

The server knows only the text that it was given last, so a request is worth nothing unless the text
right before it is its own.  Here the host, the editor, the client, its servers and the clock do
what they like, in any order: a run is a list of `Deed`s.  `Bridge.documents_travel` says what the
queues and the requests look like after any run.

* Every request for a feature on a queue stands right behind a text, and both were put there by one
  deed, the one by which a request of the editor or the host has run.  The text is the one that this
  request was made with, behind the preamble of that moment, and the place is its place, moved down
  by the lines of that preamble.
* A request that waits remembers these lines, and a reply to a hover is moved back by them, whatever
  the preamble is by then.

## How the proof goes

1. A deed of the host comes down to actions of the client and events (`Through`), so there are only
three things that a deed can be to requests and queues (`Done`).
2. A queue grows at its end.  What is new behind the old queue is plain, or it is a text with the
request behind it (`split_of_plain`, `split_of_pair`).
3. `Travelled` is kept along the run: each pair on a queue is traced back to the deed that put it
there, and the request of that deed to the deed that made it.

Frames are written out in `DocumentsTravel.paired`, by method and parameters.  What a server reads
in them is told by `Message.read_didOpen` and `Message.read_place`.
-/

namespace LanguageBridge.Host

open Client (Action Origin Request System)
open Client.System (Numbered Ran Told)
open Editor (Feature)

/-! ## Runs -/

/-- What can happen to a bridge, its client and whoever else uses the client. -/
inductive Deed where
  | client (a : Action)
  | command (c : Command)
  /-- A line of the host arrives. -/
  | line (text : String)

namespace Bridge

/-- One deed done. -/
def act (b : Bridge) : Deed → Bridge
  | .client a => b.having (·.act a)
  | .command c => (b.handle c).2
  | .line text => (b.handleLine text).2

/-- Some deeds done one after another. -/
def acts (b : Bridge) (deeds : List Deed) : Bridge := deeds.foldl act b

theorem acts_concat (b : Bridge) (deeds : List Deed) (d : Deed) :
    b.acts (deeds ++ [d]) = (b.acts deeds).act d := List.foldl_concat ..

/-- The request that is made for a feature of the document as it is now. -/
def asking (b : Bridge) (feature : Feature) (place : Editor.Position) : Request :=
  ⟨b.system.asked + 1, .host, feature, .registered b.system.state.options.languageId, b.document,
    place, .starting⟩

end Bridge

/-- The command that a line stands for, if it is one. -/
def lineCommand? (text : String) : Option Command :=
  if (Text.trim text).isEmpty then none else (Command.ofLine (Text.trim text)).toOption

/-- The request that a command makes. -/
def Command.request? (b : Bridge) : Command → Option Request
  | .completion place => some (b.asking .completion place)
  | .hover place => some (b.asking .hover place)
  | .signatureHelp place => some (b.asking .signatureHelp place)
  | .setText _ => none
  | .setCursor _ => none
  | .setEndpoint _ => none
  | .setHeader _ => none
  | .getHeader => none
  | .destroy => none

/-- The request that a deed makes, with the text that it is made with. -/
def Deed.request? (b : Bridge) : Deed → Option Request
  | .client (.ask origin feature target text place) =>
    some ⟨b.system.asked + 1, origin, feature, target, text, place, .starting⟩
  | .client _ => none
  | .command c => c.request? b
  | .line text => (lineCommand? text).bind (Command.request? b)

/-! ## What a deed comes to

A line of the host may be any command, or none.  But what a command does to the client is one
action at most, and what it does besides is echoes, so that deeds are reduced to actions once and
for all. -/

/-- What a deed comes to: at most one action of the client, and echoes for the host. -/
inductive Through (b : Bridge) (d : Deed) : Prop
  /-- It is an action of the client itself. -/
  | client (a : Action) (own : d = .client a)
  /-- The bridge has the client do something, and echoes it.  It runs no requests and leaves the
  observer alone. -/
  | acted (a : Action) (echoes : List Event) (plain : ∀ e ∈ echoes, e.feature? = none)
      (made : d.request? b = Deed.request? b (.client a))
      (idle : ∀ number, a ≠ .run (.request number)) (hidden : ∀ observer, a ≠ .setObserver observer)
      (after : (b.act d).system
        = { b.system.act a with events := (b.system.act a).events ++ echoes })
  | echoed (echoes : List Event) (plain : ∀ e ∈ echoes, e.feature? = none)
      (none : d.request? b = none)
      (after : (b.act d).system = { b.system with events := b.system.events ++ echoes })

namespace Through

variable {b : Bridge} {d : Deed}

theorem nothing (none : d.request? b = none) (after : (b.act d).system = b.system) : Through b d :=
  .echoed [] nofun none (by rw [after, List.append_nil])

theorem emit (e : Event) (plain : e.feature? = none) (none : d.request? b = none)
    (after : (b.act d).system = { b.system with events := b.system.events ++ [e] }) : Through b d :=
  .echoed [e] (fun _ mem => List.mem_singleton.1 mem ▸ plain) none after

/-- A deed that is one action of the client, and makes what that action makes. -/
theorem act (a : Action) (made : d.request? b = Deed.request? b (.client a))
    (idle : ∀ number, a ≠ .run (.request number)) (hidden : ∀ observer, a ≠ .setObserver observer)
    (after : (b.act d).system = b.system.act a) : Through b d :=
  .acted a [] nofun made idle hidden (by rw [after, List.append_nil])

/-- A deed that asks for a feature for the document as it is now. -/
theorem ask (feature : Feature) (place : Editor.Position)
    (own : d.request? b = some (b.asking feature place))
    (after : (b.act d).system = (b.request feature place).system) : Through b d :=
  .act (.ask .host feature _ _ place) own (fun _ => nofun) (fun _ => nofun) after

theorem handle (c : Command) (own : d.request? b = c.request? b)
    (handled : b.act d = (b.handle c).2) : Through b d := by
  have after : (b.act d).system = (b.handle c).2.system := congrArg Bridge.system handled
  cases c with
  | setText text =>
      by_cases same : b.document = text
      · exact .nothing own (after.trans (congrArg Bridge.system (if_pos same)))
      · exact .emit (.currentText text) rfl own
          (after.trans (congrArg Bridge.system (if_neg same)))
  | setCursor place => exact .emit (.currentCursor place) rfl own after
  | setEndpoint endpoint =>
      by_cases gone : b.system.state.destroyed = true
      · exact .emit (.warning _) rfl own (after.trans (congrArg Bridge.system (if_pos gone)))
      · exact .act (.setEndpoint endpoint) own (fun _ => nofun) (fun _ => nofun)
          (after.trans (congrArg Bridge.system (if_neg gone)))
  | setHeader header =>
      refine .acted (.setPreamble (normalizeHeader header))
        [.currentHeader ((normalizeHeader header).getD "")] (fun e mem => ?_) own (fun _ => nofun)
        (fun _ => nofun) after
      rw [List.mem_singleton.1 mem]
      rfl
  | getHeader => exact .emit (.currentHeader _) rfl own after
  | completion place => exact .ask .completion place own after
  | hover place => exact .ask .hover place own after
  | signatureHelp place => exact .ask .signatureHelp place own after
  | destroy => exact .act .destroy own (fun _ => nofun) (fun _ => nofun) after

end Through

/-- **Every deed is of one of these kinds.**  A line of the host is the command that it holds, or
nothing. -/
theorem through (b : Bridge) (d : Deed) : Through b d := by
  cases d with
  | client a => exact .client a rfl
  | command c => exact .handle c rfl rfl
  | line text =>
      have after : b.act (.line text) = (b.handleLine text).2 := rfl
      unfold Bridge.handleLine at after
      simp only [] at after
      by_cases blank : (Text.trim text).isEmpty = true
      · rw [if_pos blank] at after
        refine .nothing ?_ (congrArg Bridge.system after)
        rw [Deed.request?, lineCommand?, if_pos blank]
        rfl
      · rw [if_neg blank] at after
        cases read : Command.ofLine (Text.trim text) with
        | ok c =>
            rw [read] at after
            refine .handle c ?_ after
            rw [Deed.request?, lineCommand?, if_neg blank, read]
            rfl
        | error fault =>
            rw [read] at after
            refine .emit (.warning _) rfl ?_ (congrArg Bridge.system after)
            rw [Deed.request?, lineCommand?, if_neg blank, read]
            rfl

/-! ## What a deed does to requests and queues

Of all actions only two matter here, one that makes a request and one by which a request runs. -/

/-- What a deed comes to. -/
inductive Done (b : Bridge) (d : Deed) (b' : Bridge) : Prop
  /-- It makes a request, and nothing else concerns requests and queues. -/
  | made {r : Request} (own : d.request? b = some r) (next : r.number = b.system.asked + 1)
      (starting : r.stage = .starting) (requests : b'.system.requests = b.system.requests ++ [r])
      (asked : b'.system.asked = b.system.asked + 1) (kept : b.system.Kept b'.system)
  /-- A request runs. -/
  | ran {number : Nat} (own : d = .client (.run (.request number)))
      (ran : Ran b.system number b'.system)
  /-- Something else happens. -/
  | other (same : b'.system.asking = b.system.asking) (kept : b.system.Kept b'.system)

variable {b : Bridge}

/-- What the client does itself: a request runs, or every queue is kept. -/
theorem done_client (b : Bridge) (a : Action) : Done b (.client a) (b.act (.client a)) := by
  by_cases runs : ∃ number, a = .run (.request number)
  · obtain ⟨number, rfl⟩ := runs
    exact .ran rfl (Client.System.ran_runRequest b.system number)
  · have kept := b.system.kept_act fun number own => runs ⟨number, own⟩
    by_cases asks : ∃ origin feature target text place, a = .ask origin feature target text place
    · obtain ⟨origin, feature, target, text, place, rfl⟩ := asks
      exact .made rfl rfl rfl rfl rfl kept
    · refine .other ?_ kept
      exact b.system.asking_act (fun number own => runs ⟨number, own⟩)
        fun origin feature target text place own => asks ⟨origin, feature, target, text, place, own⟩

theorem done (b : Bridge) (d : Deed) : Done b d (b.act d) := by
  cases through b d with
  | client a own => exact own ▸ done_client b a
  | acted a echoes plain made idle hidden after =>
      cases done_client b a with
      | made own next starting requests asked kept =>
          refine .made (made.trans own) next starting ?_ ?_ ?_ <;> rw [after]
          · exact requests
          · exact asked
          · exact kept
      | ran own ran => exact absurd (Deed.client.inj own) (idle _)
      | other same kept =>
          refine .other ?_ ?_ <;> rw [after]
          · exact same
          · exact kept
  | echoed echoes plain none after =>
      refine .other ?_ ?_ <;> rw [after]
      · rfl
      · exact .of_connections rfl

/-! ## The history of requests and frames

The invariant looks back: each frame of a request names the deeds in front of the one that sent
it.  It has to, since the preamble that counts is the one of that moment and not the present one. -/

/-- The deed by which a request runs. -/
def running (r : Request) : Deed := .client (.run (.request r.number))

/-- A request was made in a run. -/
def Made (start : Bridge) (deeds : List Deed) (r : Request) : Prop :=
  ∃ earlier d later, deeds = earlier ++ d :: later ∧ d.request? (start.acts earlier) = some r

/-- A request that was made in a run is sent on a connection after that run: its document, behind
the preamble of this moment, and the request itself right behind it. -/
structure Sent (start : Bridge) (before : List Deed) (r : Request) (c id : Nat) : Prop where
  made : Made start before r
  queued : ∃ more,
    ((start.acts (before ++ [running r])).system.connection c).link.queued
      = ((start.acts before).system.connection c).link.queued
        ++ .frame (r.opening (start.acts before).system c)
          :: .frame (r.message (start.acts before).system id) :: more

/-- A request was sent in a run, and `lines` are those of the preamble of that moment. -/
def Awaited (start : Bridge) (deeds : List Deed) (r : Request) (c id : Nat) (lines : UInt32) :
    Prop :=
  ∃ before later, deeds = before ++ running r :: later ∧
    Sent start before { r with stage := .starting } c id ∧
      lines = Preamble.lines (start.acts before).system.state.preamble

/-- A message on a queue is the request that was sent in a run, and it stands behind its
document. -/
def Accompanied (start : Bridge) (deeds : List Deed) (c : Nat) (front : List (Outbound Message))
    (m : Message) : Prop :=
  ∃ before later r id, deeds = before ++ running r :: later ∧ Sent start before r c id ∧
    m = r.message (start.acts before).system id ∧
      front = ((start.acts before).system.connection c).link.queued
        ++ [.frame (r.opening (start.acts before).system c)]

/-- What the queues and the requests of a bridge are after a run. -/
structure Travelled (start : Bridge) (deeds : List Deed) : Prop where
  numbered : Numbered (start.acts deeds).system
  made : ∀ r ∈ (start.acts deeds).system.requests, Made start deeds { r with stage := .starting }
  waiting : ∀ r ∈ (start.acts deeds).system.requests, ∀ c id due lines,
    r.stage = .waiting c id due lines → Awaited start deeds r c id lines
  paired : ∀ c front id f params back,
    ((start.acts deeds).system.connection c).link.queued
      = front ++ .frame (.request id (Feature.method f) params) :: back →
    Accompanied start deeds c front (.request id f.method params)

section Lists

variable {start more front back : List (Outbound Message)} {m : Message}

/-- A request for a feature is not among messages of other kinds that were queued last. -/
theorem split_of_plain (plain : ∀ m, .frame m ∈ more → m.Plain) (feature : ¬m.Plain)
    (split : start ++ more = front ++ .frame m :: back) :
    ∃ back', start = front ++ .frame m :: back' := by
  rcases List.append_eq_append_iff.1 split with ⟨rest, -, here⟩ | ⟨rest, here, behind⟩
  · refine absurd (plain m ?_) feature
    rw [here]
    exact List.mem_append_right _ List.mem_cons_self
  · cases rest with
    | nil =>
        refine absurd (plain m ?_) feature
        rw [List.nil_append] at behind
        rw [← behind]
        exact List.mem_cons_self
    | cons e rest =>
        rw [List.cons_append, List.cons.injEq] at behind
        rw [here, behind.1]
        exact ⟨rest, rfl⟩

/-- Of two messages that were queued last, a message that is not the first one is the second one, or
it was there before. -/
theorem split_of_pair {o r : Message} (other : m ≠ o)
    (split : start ++ [.frame o, .frame r] = front ++ .frame m :: back) :
    (∃ back', start = front ++ .frame m :: back') ∨ front = start ++ [.frame o] ∧ m = r := by
  rcases List.append_eq_append_iff.1 split with ⟨rest, here, pair⟩ | ⟨rest, here, behind⟩
  · match rest, pair with
    | [], pair =>
        cases pair
        exact absurd rfl other
    | [_], pair =>
        cases pair
        exact .inr ⟨here, rfl⟩
    | [_, _], pair => cases pair
    | _ :: _ :: _ :: _, pair => cases pair
  · cases rest with
    | nil =>
        cases behind
        exact absurd rfl other
    | cons e rest =>
        rw [List.cons_append, List.cons.injEq] at behind
        rw [here, behind.1]
        exact .inl ⟨rest, rfl⟩

end Lists

/-- A request for a feature is none of the messages of other kinds. -/
theorem not_plain (id : Nat) (f : Feature) (params : Json) :
    ¬(Message.request id f.method params).Plain := fun plain => plain.request id f params rfl

/-- A connection that was kept had every request for a feature before. -/
theorem split_of_kept {k k' : Client.Connection} (kept : k.Kept k') {m : Message}
    (feature : ¬m.Plain) {front back : List (Outbound Message)}
    (split : k'.link.queued = front ++ .frame m :: back) :
    ∃ back', k.link.queued = front ++ .frame m :: back' := by
  obtain ⟨start, more, queued, rfl | rfl, plain⟩ := kept
  · exact split_of_plain plain feature (queued.symm.trans split)
  · obtain ⟨back', none⟩ := split_of_plain plain feature (queued.symm.trans split)
    exact absurd none (by simp)

section Later

variable {start : Bridge} {deeds : List Deed} (d : Deed)

/-- What was made in a run was made in any longer one. -/
theorem Made.concat {r : Request} (made : Made start deeds r) : Made start (deeds ++ [d]) r := by
  obtain ⟨earlier, e, later, rfl, own⟩ := made
  exact ⟨earlier, e, later ++ [d], by simp, own⟩

/-- What is awaited has been sent in any longer run as well. -/
theorem Awaited.concat {r : Request} {c id : Nat} {lines : UInt32}
    (awaited : Awaited start deeds r c id lines) : Awaited start (deeds ++ [d]) r c id lines := by
  obtain ⟨before, later, rfl, sent⟩ := awaited
  exact ⟨before, later ++ [d], by simp, sent⟩

/-- What stands behind its text stands there for good. -/
theorem Accompanied.concat {c : Nat} {front : List (Outbound Message)} {m : Message}
    (accompanied : Accompanied start deeds c front m) :
    Accompanied start (deeds ++ [d]) c front m := by
  obtain ⟨before, later, r, id, rfl, sent⟩ := accompanied
  exact ⟨before, later ++ [d], r, id, by simp, sent⟩

end Later

namespace Travelled

variable {start : Bridge} {deeds : List Deed} {d : Deed}

/-- A connection that was kept carries the same requests for features as before. -/
theorem paired_concat (travelled : Travelled start deeds) {k : Client.Connection} {c : Nat}
    (kept : ((start.acts deeds).system.connection c).Kept k) {front back : List (Outbound Message)}
    {id : Nat} {f : Feature} {params : Json}
    (split : k.link.queued = front ++ .frame (.request id f.method params) :: back) :
    Accompanied start (deeds ++ [d]) c front (.request id f.method params) := by
  obtain ⟨back', before⟩ := split_of_kept kept (not_plain id f params) split
  exact (travelled.paired c front id f params back' before).concat d

/-- A deed after which there are not more requests than before, and every queue was kept. -/
theorem concat_fewer (travelled : Travelled start deeds)
    (fewer : (start.acts deeds).system.Fewer ((start.acts deeds).act d).system)
    (kept : (start.acts deeds).system.Kept ((start.acts deeds).act d).system) :
    Travelled start (deeds ++ [d]) := by
  refine ⟨?_, ?_, ?_, ?_⟩ <;> rw [Bridge.acts_concat]
  · exact travelled.numbered.of_fewer fewer
  · exact fun r mem => (travelled.made r (fewer.requests.subset mem)).concat d
  · intro r mem c id due lines stage
    exact (travelled.waiting r (fewer.requests.subset mem) c id due lines stage).concat d
  · exact fun c front id f params back split => travelled.paired_concat (kept c) split

/-- A deed that makes a request. -/
theorem concat_made (travelled : Travelled start deeds) {r : Request}
    (own : d.request? (start.acts deeds) = some r)
    (next : r.number = (start.acts deeds).system.asked + 1) (starting : r.stage = .starting)
    (requests : ((start.acts deeds).act d).system.requests
      = (start.acts deeds).system.requests ++ [r])
    (asked : ((start.acts deeds).act d).system.asked = (start.acts deeds).system.asked + 1)
    (kept : (start.acts deeds).system.Kept ((start.acts deeds).act d).system) :
    Travelled start (deeds ++ [d]) := by
  refine ⟨?_, ?_, ?_, ?_⟩ <;> rw [Bridge.acts_concat]
  · exact travelled.numbered.append next requests asked
  · rw [requests]
    intro q mem
    rcases List.mem_append.1 mem with before | new
    · exact (travelled.made q before).concat d
    · have same : ({ r with stage := .starting } : Request) = r := by rw [← starting]
      rw [List.mem_singleton.1 new, same]
      exact ⟨deeds, d, [], rfl, own⟩
  · rw [requests]
    intro q mem c id due lines stage
    rcases List.mem_append.1 mem with before | new
    · exact (travelled.waiting q before c id due lines stage).concat d
    · rw [List.mem_singleton.1 new, starting] at stage
      cases stage
  · exact fun c front id f params back split => travelled.paired_concat (kept c) split

/-- A request that runs and is sent. -/
theorem concat_sent (travelled : Travelled start deeds) {r : Request} {c id : Nat}
    {more : List (Outbound Message)} (mem : r ∈ (start.acts deeds).system.requests)
    (queued : (((start.acts deeds).act (running r)).system.connection c).link.queued
      = ((start.acts deeds).system.connection c).link.queued
        ++ .frame (r.opening (start.acts deeds).system c)
          :: .frame (r.message (start.acts deeds).system id) :: more)
    (plain : ∀ m, .frame m ∈ more → m.Plain)
    (others : ∀ e, e ≠ c → ((start.acts deeds).system.connection e).Kept
      (((start.acts deeds).act (running r)).system.connection e))
    (numbered : Numbered ((start.acts deeds).act (running r)).system)
    (left : ∀ q ∈ ((start.acts deeds).act (running r)).system.requests,
      q ∈ (start.acts deeds).system.requests ∨ ∃ due, q = { r with
        stage := .waiting c id due
          (Preamble.lines (start.acts deeds).system.state.preamble) }) :
    Travelled start (deeds ++ [running r]) := by
  have sent : Sent start deeds { r with stage := .starting } c id := by
    refine ⟨travelled.made r mem, more, ?_⟩
    rw [Bridge.acts_concat]
    exact queued
  refine ⟨?_, ?_, ?_, ?_⟩ <;> rw [Bridge.acts_concat]
  · exact numbered
  · intro q there
    rcases left q there with before | ⟨due, rfl⟩
    · exact (travelled.made q before).concat _
    · exact (travelled.made r mem).concat _
  · intro q there c' id' due' lines' stage
    rcases left q there with before | ⟨due, rfl⟩
    · exact (travelled.waiting q before c' id' due' lines' stage).concat _
    · cases stage
      exact ⟨deeds, [], rfl, sent, rfl⟩
  · intro e front id' f params back split
    by_cases same : e = c
    · subst same
      have pair : ((start.acts deeds).system.connection e).link.queued
          ++ [.frame (r.opening (start.acts deeds).system e),
            .frame (r.message (start.acts deeds).system id)] ++ more
          = front ++ .frame (.request id' f.method params) :: back := by
        rw [← split, queued, List.append_assoc]
        rfl
      obtain ⟨back', two⟩ := split_of_plain plain (not_plain id' f params) pair
      have other : Message.request id' f.method params ≠ r.opening (start.acts deeds).system e := by
        unfold Request.opening Message.didOpen
        nofun
      rcases split_of_pair other two with
        ⟨back'', before⟩ | ⟨front', own⟩
      · exact (travelled.paired e front id' f params back'' before).concat _
      · exact ⟨deeds, [], { r with stage := .starting }, id, rfl, sent, own, front'⟩
    · exact travelled.paired_concat (others e same) split

/-- Whatever is done. -/
theorem concat (travelled : Travelled start deeds) (d : Deed) : Travelled start (deeds ++ [d]) := by
  cases done (start.acts deeds) d with
  | made own next starting requests asked kept =>
      exact travelled.concat_made own next starting requests asked kept
  | other same kept => exact travelled.concat_fewer (.of_asking same) kept
  | ran own ran =>
      have numbered := travelled.numbered.ran ran
      cases ran with
      | kept kept fewer => exact travelled.concat_fewer fewer kept
      | @sent r c id more mem number starting serves queued plain others left =>
          subst own number
          refine travelled.concat_sent mem queued plain others numbered fun q there => ?_
          rcases left with fewer | ⟨-, due, requests⟩
          · exact .inl (fewer.requests.subset there)
          · have mapped : q ∈ List.map _ _ := requests ▸ there
            obtain ⟨p, before, rfl⟩ := List.mem_map.1 mapped
            by_cases same : p.number = r.number
            · -- Only the request that has run has this number.
              obtain rfl := List.inj_on_of_nodup_map travelled.numbered.distinct before mem same
              rw [if_pos rfl]
              exact .inr ⟨due, rfl⟩
            · rw [if_neg same]
              exact .inl before

end Travelled

/-- What the queues and the requests of a bridge are after any run. -/
theorem travelled (options : Client.Options) (deeds : List Deed) :
    Travelled (.fresh (.fresh options)) deeds := by
  induction deeds using List.reverseRecOn with
  | nil =>
      refine ⟨⟨List.nodup_nil, nofun⟩, nofun, nofun, ?_⟩
      intro c front id f params back split
      have vacant := Client.System.connection_of_length_le
        ((Bridge.fresh (.fresh options)).acts []).system (Nat.zero_le c)
      rw [vacant] at split
      exact absurd split.symm (by simp [Client.Connection.called, Client.Connection.noLink, Link.fresh])
  | append_singleton deeds d ih => exact ih.concat d

/-! ## All of it together -/

/-- What travels over the queues of a bridge in a run, and comes back. -/
structure DocumentsTravel (start : Bridge) (deeds : List Deed) : Prop where
  /-- Every request for a feature on a queue was sent by one deed, for a request that was made
  before.  It stands right behind a notification that opens the document of that request, with the
  preamble of that moment in front of its text, and the place that it names is the place that was
  asked about, moved down by the lines of that preamble. -/
  paired : ∀ c front id f params back,
    ((start.acts deeds).system.connection c).link.queued
      = front ++ .frame (.request id (Feature.method f) params) :: back →
    ∃ before later r uri language preamble,
      deeds = before ++ running r :: later ∧ Sent start before r c id ∧ f = r.feature ∧
        preamble = (start.acts before).system.state.preamble ∧
        front = ((start.acts before).system.connection c).link.queued
          ++ [.frame (.notification "textDocument/didOpen" (.object [("textDocument", .object [
            ("languageId", .text language), ("text", .text (Preamble.inFrontOf preamble r.text)),
            ("uri", .text uri), ("version", .nat 1)])]))] ∧
        ∃ sent, sent = Preamble.toServer (Preamble.lines preamble) r.place ∧
          params = .object [
            ("position", .object [
              ("line", .nat sent.line.toNat), ("character", .nat sent.character.toNat)]),
            ("textDocument", .object [("uri", .text uri)])]
  /-- A reply to a hover is turned into an answer with the lines of the preamble with which the
  request was sent: the range of the answer is the range of the reply, moved back by them. -/
  hover : ∀ r ∈ (start.acts deeds).system.requests, ∀ c id due lines,
    r.stage = .waiting c id due lines → r.feature = .hover →
    ∃ before later, deeds = before ++ running r :: later ∧
      Sent start before { r with stage := .starting } c id ∧
      lines = Preamble.lines (start.acts before).system.state.preamble ∧
      ∀ reply session h,
        ((start.acts deeds).system.connection c).session.resume (start.acts deeds).system.now id due
          = (.over (.ok reply), session) →
        reply.isNull = false → Server.Hover.decoder.ofValue reply = .ok h →
        Told (start.acts deeds).system ((start.acts deeds).act (running r)).system
          (Editor.Hover.ofServer? lines h) r.origin ∧
        ∀ shown, Editor.Hover.ofServer? lines h = some shown →
          shown.range = h.range.bind (Preamble.toEditor? lines)

/-- The stretch that a hover shows is that of the server, moved back. -/
theorem range_of_ofServer? {lines : UInt32} {h : Server.Hover} {shown : Editor.Hover}
    (shows : Editor.Hover.ofServer? lines h = some shown) :
    shown.range = h.range.bind (Preamble.toEditor? lines) := by
  unfold Editor.Hover.ofServer? at shows
  split at shows
  · cases shows
  · cases shows
    rfl

/-- Whatever the host, the editor, the client, its servers and the clock do, in any order, every
request for a feature travels right behind its own document, and a hover comes back with the lines
with which it went out. -/
theorem documents_travel (options : Client.Options) (deeds : List Deed) :
    DocumentsTravel (.fresh (.fresh options)) deeds where
  paired := by
    intro c front id f params back split
    obtain ⟨before, later, r, id', run, sent, own, front'⟩ :=
      (travelled options deeds).paired c front id f params back split
    injection own with number method place
    subst number
    exact ⟨before, later, r, _, _, _, run, sent, Feature.method_inj method, rfl, front', _, rfl, place⟩
  hover := by
    intro r mem c id due lines stage feature
    have travelled := travelled options deeds
    obtain ⟨before, later, run, sent, same⟩ := travelled.waiting r mem c id due lines stage
    refine ⟨before, later, run, sent, same, fun reply session h resumed content decoded => ?_⟩
    exact ⟨Client.System.told_runRequest (travelled.numbered.find mem) stage feature resumed content
      decoded, fun shown shows => range_of_ofServer? shows⟩

/-- A hover that is asked for behind a header.  Before the request runs, the text is taken away;
before the reply arrives, the header is. -/
def hovering : List Deed :=
  [.client (.connect "one"), .client (.run (.attempt 1)), .client (.connectorOpened 1 .opened),
    .client (.run (.attempt 1)), .client (.peerFeed 0
      "\x7b\"id\":1,\"result\":\x7b\"capabilities\":\x7b\"hoverProvider\":true\x7d\x7d\x7d"),
    .client (.run (.reader 0)), .client (.run (.attempt 1)), .command (.setText "os.getcwd()"),
    .command (.setHeader "import os"), .command (.hover ⟨1, 4⟩), .command (.setText ""),
    .client (.run (.request 1)), .command (.setHeader "")]

example : (((Bridge.fresh (.fresh .standard)).acts hovering).system.connection 0).link.queued.drop 2
    = [.frame (.didOpen "inmemory://model.py" "python" "import os\nos.getcwd()"),
      .frame (.request 2 "textDocument/hover" (Message.placeParams "inmemory://model.py" ⟨1, 3⟩))] := by
  cbv

end LanguageBridge.Host
