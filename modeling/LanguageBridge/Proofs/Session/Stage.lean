import LanguageBridge.Proofs.Session.Multiplexing
import LanguageBridge.Rehearsal.Session

/-!
# A rehearsed session is a conversation

A stage runs its reader and its callers as its agenda says; a conversation leaves open what is done
next.  Whatever is moved on a stage, and whatever runs because of it, its session and its link are
those of a conversation after some deeds, and its callers are among those that wait there.  So what
holds of every conversation holds on every stage.

## A simulation

* `Shows s c`: the stage has the session and the link of the conversation, and each caller on it
  waits for a request of its own that is waited for there.
* `Follows c s`: some deeds lead from the conversation to one that the stage shows.  This is what
  one job of a stage is shown to do (`follows_poll`), and then a move with everything that runs
  because of it (`follows_act`), and then a run (`follows_run`).

One job is not one deed.  A reader that runs takes all texts that have arrived, and then perhaps
finds that there will be no more, which are as many deeds; a caller that runs out of time is one
that looks for its answer too late.
-/

namespace LanguageBridge

/-! ## Reading in one go

A reader that runs takes all texts at once and a conversation takes them one by one.  The two are
the same since reading looks neither at the texts behind nor at those that are gone. -/

namespace Session

/-- Reading one text does not depend on those that have not been read. -/
theorem read_inbound (s : Session) (l : Link Message) (text : String) (inbound : List String) :
    s.read { l with inbound } text
      = ((s.read l text).1, { (s.read l text).2 with inbound }) := by
  unfold read Link.send Link.isOpen
  split
  · split
    · rfl
    · rfl
  · by_cases usable : (decide (l.state = .opened) && l.peer) = true
    · simp only [if_pos usable]
    · simp only [if_neg usable]
  · rfl

/-- Some texts read one after another. -/
def readAll (s : Session) (l : Link Message) (texts : List String) : Session × Link Message :=
  texts.foldl (fun p text => p.1.read p.2 text) (s, l)

theorem inbound_read (s : Session) (l : Link Message) (text : String) :
    (s.read l text).2.inbound = l.inbound :=
  congrArg (fun read => read.2.inbound) (s.read_inbound l text l.inbound)

/-- Reading neither takes texts from a link nor stops others from reading them. -/
theorem readAll_eq (s : Session) (l : Link Message) (texts : List String) :
    (s.readAll l texts).2.inbound = l.inbound ∧
      (s.readAll l texts).2.listening = l.listening := by
  induction texts generalizing s l with
  | nil => exact ⟨rfl, rfl⟩
  | cons text rest ih =>
      obtain ⟨inbound, listening⟩ := ih (s.read l text).1 (s.read l text).2
      exact ⟨inbound.trans (s.inbound_read l text), listening.trans (s.goesOn_read l text).listening⟩

end Session

namespace Conversation

theorem acts_append (c : Conversation) (deeds more : List Deed) :
    c.acts (deeds ++ more) = (c.acts deeds).acts more :=
  List.foldl_append

theorem read_of_text {c : Conversation} {text : String} {rest : List String}
    (listening : c.link.listening = true) (inbound : c.link.inbound = text :: rest) :
    c.read
      = ⟨(c.session.read c.link text).1, { (c.session.read c.link text).2 with inbound := rest },
          c.waiting, c.log ++ [.read text]⟩ := by
  have received : c.link.receive = (some text, { c.link with inbound := rest }) := by
    rw [Link.receive, inbound]
  rw [read, if_pos listening, received]
  simp only [Session.read_inbound]

theorem read_of_end {c : Conversation} (listening : c.link.listening = true)
    (inbound : c.link.inbound = []) (quiet : c.link.feeding = false) :
    c.read = ⟨c.session.endOfTexts, c.link.stopListening, c.waiting, c.log ++ [.ended]⟩ := by
  have received : c.link.receive = (none, c.link) := by rw [Link.receive, inbound]
  rw [read, if_pos listening, received]
  simp only [quiet]
  rfl

/-- Reading as often as there are texts is reading all of them in one go. -/
theorem acts_read {c : Conversation} {texts : List String}
    (listening : c.link.listening = true) (inbound : c.link.inbound = texts) :
    ∃ log, c.acts (List.replicate texts.length .read)
      = ⟨(c.session.readAll { c.link with inbound := [] } texts).1,
          (c.session.readAll { c.link with inbound := [] } texts).2, c.waiting, log⟩ := by
  induction texts generalizing c with
  | nil =>
      have same : { c.link with inbound := [] } = c.link := by rw [← inbound]
      refine ⟨c.log, ?_⟩
      rw [same]
      rfl
  | cons text rest ih =>
      have still := (c.session.goesOn_read c.link text).listening
      have first := read_of_text listening inbound
      obtain ⟨log, others⟩ := ih (c := c.read) (by rw [first]; exact still.trans listening)
        (by rw [first])
      refine ⟨log, ?_⟩
      rw [first] at others
      show c.read.acts (List.replicate rest.length .read) = _
      rw [first, others]
      simp only [Session.readAll, List.foldl_cons, Session.read_inbound]

end Conversation

namespace Rehearsal.SessionStage

variable {s s' : SessionStage} {c : Conversation}

/-- A caller waits for a request. -/
def Waits (s : SessionStage) (number id : Nat) : Prop :=
  ∃ d ∈ s.callers, d.number = number ∧ ∃ due, d.phase = .waiting id due

/-- A stage whose session and link are those of a conversation, in which its callers wait. -/
structure Shows (s : SessionStage) (c : Conversation) : Prop where
  faithful : c.Faithful
  session : s.session = c.session
  link : s.link = c.link
  waits : ∀ number id, s.Waits number id → id ∈ c.waiting
  apart : ∀ number other id, s.Waits number id → s.Waits other id → number = other

/-- A stage that a conversation shows after some deeds. -/
def Follows (c : Conversation) (s : SessionStage) : Prop := ∃ deeds, Shows s (c.acts deeds)

/-- Nobody waits under the number of a caller that is there no more. -/
theorem waits_forget {number k id : Nat} :
    (s.forget k).Waits number id ↔ s.Waits number id ∧ number ≠ k := by
  constructor
  · rintro ⟨d, mem, rfl, phase⟩
    obtain ⟨mem, other⟩ := List.mem_filter.1 mem
    exact ⟨⟨d, mem, rfl, phase⟩, of_decide_eq_true other⟩
  · rintro ⟨⟨d, mem, rfl, phase⟩, other⟩
    exact ⟨d, List.mem_filter.2 ⟨mem, decide_eq_true other⟩, rfl, phase⟩

theorem waits_of_callers (callers : s'.callers = s.callers) {number id : Nat}
    (waits : s'.Waits number id) : s.Waits number id := by
  unfold Waits at waits ⊢
  rw [← callers]
  exact waits

namespace Shows

theorem fresh (state : SocketState) (languageId : String) (requestTimeout : Duration) :
    Shows (.fresh state languageId requestTimeout)
      (.fresh state languageId requestTimeout) where
  faithful := .fresh state languageId requestTimeout
  session := rfl
  link := rfl
  waits := by
    rintro number id ⟨d, ⟨⟩, -⟩
  apart := by
    rintro number other id ⟨d, ⟨⟩, -⟩

/-- What a stage shows does not depend on its agenda, nor on callers that do not wait. -/
theorem of_eq (shows : Shows s c) (session : s'.session = s.session) (link : s'.link = s.link)
    (waits : ∀ number id, s'.Waits number id → s.Waits number id) : Shows s' c where
  faithful := shows.faithful
  session := session.trans shows.session
  link := link.trans shows.link
  waits := fun number id waits' => shows.waits number id (waits number id waits')
  apart := fun number other id waits₁ waits₂ =>
    shows.apart number other id (waits number id waits₁) (waits other id waits₂)

/-- Whoever still waits after a caller was forgotten waited before. -/
theorem waits_of_forget (shows : Shows s c) {k number id : Nat}
    (waits : (s.forget k).Waits number id) : id ∈ c.waiting :=
  shows.waits number id (waits_forget.1 waits).1

theorem apart_of_forget (shows : Shows s c) {k number other id : Nat}
    (waits₁ : (s.forget k).Waits number id) (waits₂ : (s.forget k).Waits other id) :
    number = other :=
  shows.apart number other id (waits_forget.1 waits₁).1 (waits_forget.1 waits₂).1

/-- A stage that shows a conversation follows it, by doing nothing. -/
theorem follows (shows : Shows s c) : Follows c s := ⟨[], shows⟩

/-- A conversation goes on with its callers waiting as before. -/
theorem step {c' : Conversation} (shows : Shows s c) (deed : Deed) (same : c.act deed = c')
    (waiting : c'.waiting = c.waiting) :
    Follows c { s with session := c'.session, link := c'.link } := by
  refine ⟨[deed], ?_⟩
  show Shows _ (c.act deed)
  rw [same]
  exact
    { faithful := same ▸ shows.faithful.act deed
      session := rfl
      link := rfl
      waits := waiting.symm ▸ shows.waits
      apart := shows.apart }

end Shows

namespace Follows

theorem after (deeds : List Deed) (follows : Follows (c.acts deeds) s) : Follows c s := by
  obtain ⟨more, shows⟩ := follows
  exact ⟨deeds ++ more, by rw [Conversation.acts_append]; exact shows⟩

/-- What a stage does, a conversation that shows it can follow. -/
theorem bind {t : SessionStage} (follows : Follows c s)
    (next : ∀ c', Shows s c' → Follows c' t) : Follows c t := by
  obtain ⟨deeds, shows⟩ := follows
  exact (next _ shows).after deeds

/-- What a stage does beside its session, its link and its callers is not followed. -/
theorem of_eq (follows : Follows c s) (session : s'.session = s.session) (link : s'.link = s.link)
    (waits : ∀ number id, s'.Waits number id → s.Waits number id) : Follows c s' := by
  obtain ⟨deeds, shows⟩ := follows
  exact ⟨deeds, shows.of_eq session link waits⟩

end Follows

/-! ## Callers

A caller of a stage has a number of its own and waits for the id of its request.  A call that is
over takes its caller off the stage, so nobody waits under its number any more. -/

/-- A call that is over: its caller is told, after the end of the handshake if it was one. -/
theorem follows_settleCall_over {d : Caller} (shows : Shows (s.forget d.number) c)
    (outcome : Outcome) : Follows c (s.settleCall d (.over outcome)) := by
  have session : s.session = c.session := shows.session
  have link : s.link = c.link := shows.link
  unfold settleCall
  cases d.question with
  | request _ _ => exact shows.follows.of_eq rfl rfl fun _ _ waits => waits
  | greeting _ =>
      simp only [session, link]
      rcases finished : c.session.finishHandshake c.link outcome with ⟨result, session', link'⟩
      have greeted : c.greeted outcome = { c with session := session', link := link' } := by
        unfold Conversation.greeted
        rw [finished]
      exact (shows.step (.greeted outcome) greeted rfl).of_eq rfl rfl fun _ _ waits => waits

/-- A caller that goes on to wait is the only one that is new. -/
theorem waits_settleCall_waiting {d : Caller} {id due number id' : Nat}
    (waits : (s.settleCall d (.waiting id due)).Waits number id') :
    number = d.number ∧ id' = id ∨ (s.forget d.number).Waits number id' := by
  have callers : (s.settleCall d (.waiting id due)).callers = s.callers.map fun d' =>
      if d'.number = d.number then { d' with phase := .waiting id due } else d' := by
    unfold settleCall
    cases d.phase <;> rfl
  obtain ⟨d', mem, rfl, due', phase⟩ := waits
  rw [callers] at mem
  obtain ⟨d₀, old, rfl⟩ := List.mem_map.1 mem
  by_cases same : d₀.number = d.number
  · rw [if_pos same] at phase ⊢
    cases phase
    exact .inl ⟨same, rfl⟩
  · rw [if_neg same] at phase ⊢
    exact .inr (waits_forget.2 ⟨⟨d₀, old, rfl, due', phase⟩, same⟩)

/-- A call whose caller waits for a request for which nobody else waits. -/
theorem shows_settleCall_waiting {d : Caller} {id due : Nat} (shows : Shows (s.forget d.number) c)
    (waits : id ∈ c.waiting) (alone : ∀ number, ¬(s.forget d.number).Waits number id) :
    Shows (s.settleCall d (.waiting id due)) c where
  faithful := shows.faithful
  session := by
    refine Eq.trans ?_ shows.session
    unfold settleCall
    cases d.phase <;> rfl
  link := by
    refine Eq.trans ?_ shows.link
    unfold settleCall
    cases d.phase <;> rfl
  waits := by
    intro number id' waits'
    rcases waits_settleCall_waiting waits' with ⟨-, rfl⟩ | other
    · exact waits
    · exact shows.waits number id' other
  apart := by
    intro number other id' waits₁ waits₂
    rcases waits_settleCall_waiting waits₁ with ⟨rfl, rfl⟩ | other₁
    · rcases waits_settleCall_waiting waits₂ with ⟨same, -⟩ | other₂
      · exact same.symm
      · exact absurd other₂ (alone other)
    · rcases waits_settleCall_waiting waits₂ with ⟨-, rfl⟩ | other₂
      · exact absurd other₁ (alone number)
      · exact shows.apart number other id' other₁ other₂

/-- A caller that starts sends its request. -/
theorem follows_call (shows : Shows s c) (d : Caller) (timeout : Duration) (method : String)
    (params : Json) {answer : Session.Call} {session : Session} {link : Link Message}
    (called : s.session.call s.link s.agenda.now timeout method params = (answer, session, link)) :
    Follows c ({ s with session, link }.settleCall d answer) := by
  rw [shows.session, shows.link] at called
  have faithful := shows.faithful.call s.agenda.now timeout method params
  refine Follows.after [.call s.agenda.now timeout method params] ?_
  show Follows (c.call s.agenda.now timeout method params) _
  cases answer with
  | «over» outcome =>
      obtain ⟨log, same⟩ := Conversation.call_of_over called
      rw [same] at faithful ⊢
      have ended : Shows ({ s with session, link }.forget d.number)
          ⟨session, link, c.waiting, log⟩ :=
        ⟨faithful, rfl, rfl, fun _ _ => shows.waits_of_forget, fun _ _ _ => shows.apart_of_forget⟩
      exact follows_settleCall_over ended outcome
  | waiting id due =>
      obtain ⟨rfl, same⟩ := Conversation.call_of_waiting called
      rw [same] at faithful ⊢
      have others : ∀ number id, ({ s with session, link }.forget d.number).Waits number id →
          id ∈ c.waiting ++ [c.session.nextId] := by
        intro number id waits
        exact List.mem_append_left _ (shows.waits_of_forget waits)
      -- The id is new, so nobody waits under it.
      have alone : ∀ number,
          ¬({ s with session, link }.forget d.number).Waits number c.session.nextId := by
        intro number waits
        exact shows.faithful.nextId_notMem (shows.waits_of_forget waits)
      have before : Shows ({ s with session, link }.forget d.number) _ :=
        ⟨faithful, rfl, rfl, others, fun _ _ _ => shows.apart_of_forget⟩
      have waits : c.session.nextId ∈ c.waiting ++ [c.session.nextId] :=
        List.mem_append_right _ (List.mem_singleton.2 rfl)
      exact (shows_settleCall_waiting before waits alone).follows

/-- A caller that waits looks for its answer. -/
theorem follows_resume (shows : Shows s c) {d : Caller} (mem : d ∈ s.callers) {id due : Nat}
    (phase : d.phase = .waiting id due) {answer : Session.Call} {session : Session}
    (resumed : s.session.resume s.agenda.now id due = (answer, session)) :
    Follows c ({ s with session }.settleCall d answer) := by
  rw [shows.session] at resumed
  have own : s.Waits d.number id := ⟨d, mem, rfl, due, phase⟩
  have waiting : id ∈ c.waiting := shows.waits d.number id own
  have alone : ∀ number, ¬(s.forget d.number).Waits number id := by
    intro number waits
    obtain ⟨waits, other⟩ := waits_forget.1 waits
    exact other (shows.apart number d.number id waits own)
  have faithful := shows.faithful.poll id s.agenda.now due
  refine Follows.after [.poll id s.agenda.now due] ?_
  show Follows (c.poll id s.agenda.now due) _
  unfold Conversation.poll at faithful ⊢
  rw [if_pos waiting, resumed] at faithful ⊢
  cases answer with
  | «over» outcome =>
      have others : ∀ number id', ({ s with session }.forget d.number).Waits number id' →
          id' ∈ c.waiting.filter (· ≠ id) := by
        intro number id' waits
        refine List.mem_filter.2 ⟨shows.waits_of_forget waits, decide_eq_true ?_⟩
        rintro rfl
        exact alone number waits
      have ended : Shows ({ s with session }.forget d.number) _ :=
        ⟨faithful, rfl, shows.link, others, fun _ _ _ => shows.apart_of_forget⟩
      exact follows_settleCall_over ended outcome
  | waiting id' due' =>
      obtain ⟨rfl, -⟩ := Session.same_of_resume resumed
      have before : Shows ({ s with session }.forget d.number) { c with session } :=
        ⟨faithful, rfl, shows.link, fun _ _ => shows.waits_of_forget,
          fun _ _ _ => shows.apart_of_forget⟩
      exact (shows_settleCall_waiting before waiting alone).follows

/-- A caller that starts or looks for its answer. -/
theorem follows_pollCaller (shows : Shows s c) (number : Nat) :
    Follows c (s.pollCaller number) := by
  unfold pollCaller
  cases found : s.callers.find? (·.number = number) with
  | none => exact shows.follows
  | some d =>
      have mem := List.mem_of_find?_eq_some found
      simp only []
      cases phase : d.phase with
      | waiting id due =>
          simp only []
          rcases resumed : s.session.resume s.agenda.now id due with ⟨answer, session⟩
          exact follows_resume shows mem phase resumed
      | starting =>
          simp only []
          cases d.question with
          | greeting timeout =>
              simp only [Session.greet]
              rcases called : s.session.call s.link s.agenda.now timeout "initialize"
                (Message.handshakeParams 0) with ⟨answer, session, link⟩
              exact follows_call shows d timeout _ _ called
          | request method params =>
              simp only []
              rcases called : s.session.call s.link s.agenda.now s.session.requestTimeout method
                params with ⟨answer, session, link⟩
              exact follows_call shows d _ method params called

/-! ## The reader

The reader of a stage stops for good when its texts have ended. -/

/-- All texts that have arrived, read one after another. -/
theorem foldl_readText (texts : List String) (s : SessionStage) :
    (texts.foldl readText s).session = (s.session.readAll s.link texts).1 ∧
      (texts.foldl readText s).link = (s.session.readAll s.link texts).2 ∧
        (texts.foldl readText s).callers = s.callers := by
  induction texts generalizing s with
  | nil => exact ⟨rfl, rfl, rfl⟩
  | cons text rest ih => exact ih (s.readText text)

/-- The reader without a text left stops if there will be none. -/
theorem follows_end (shows : Shows s c) (listening : c.link.listening = true)
    (inbound : c.link.inbound = []) :
    Follows c
      (if s.link.feeding then s
      else
        { s with session := s.session.endOfTexts, link := s.link.stopListening }.wakeCallers
          s.session.pending) := by
  split
  · exact shows.follows
  · rename_i feeding
    rw [shows.link] at feeding
    have ended := Conversation.read_of_end listening inbound (Bool.eq_false_iff.2 feeding)
    rw [shows.session, shows.link]
    exact (shows.step .read ended rfl).of_eq rfl rfl fun _ _ waits => waits

/-- The reader takes the texts one by one, and then learns whether there will be more. -/
theorem follows_pollReader (shows : Shows s c) : Follows c s.pollReader := by
  unfold pollReader
  split
  · exact shows.follows
  · rename_i listening
    replace listening : c.link.listening = true := by
      rw [← shows.link]
      simpa using listening
    obtain ⟨log, read⟩ := Conversation.acts_read listening rfl
    have faithful := shows.faithful.acts (List.replicate c.link.inbound.length .read)
    obtain ⟨inbound, still⟩ :=
      c.session.readAll_eq { c.link with inbound := [] } c.link.inbound
    obtain ⟨session, link, callers⟩ :=
      foldl_readText s.link.inbound { s with link := { s.link with inbound := [] } }
    simp only [shows.session, shows.link] at session link callers ⊢
    generalize List.foldl readText _ c.link.inbound = s' at session link callers ⊢
    -- The texts one by one, and then the look for more.
    refine Follows.after (List.replicate c.link.inbound.length .read) ?_
    rw [read] at faithful ⊢
    have before : ∀ number id, s'.Waits number id → s.Waits number id :=
      fun number id => waits_of_callers callers
    have shows' : Shows s' ⟨_, _, c.waiting, log⟩ :=
      ⟨faithful, session, link,
        fun number id waits => shows.waits number id (before number id waits),
        fun number other id waits₁ waits₂ =>
          shows.apart number other id (before number id waits₁) (before other id waits₂)⟩
    exact follows_end shows' (still.trans listening) inbound

/-! ## Moves

A move is followed by everything that is ready.  Each job is a few deeds, so the whole is a list
of deeds, in the order in which the agenda has run the jobs. -/

/-- **A job of a stage is some deeds of its conversation.** -/
theorem follows_poll (shows : Shows s c) (job : SessionJob) : Follows c (poll job s) := by
  cases job with
  | reader => exact follows_pollReader shows
  | caller number => exact follows_pollCaller shows number

theorem follows_settle (fuel : Nat) (shows : Shows s c) :
    Follows c (Scheduled.settle fuel s) := by
  induction fuel generalizing s c with
  | zero => exact shows.follows
  | succ fuel ih =>
      unfold Scheduled.settle Scheduled.step?
      cases (Scheduled.agenda s).ready with
      | nil => exact shows.follows
      | cons job rest =>
          have ready : Shows (Scheduled.withAgenda s { Scheduled.agenda s with ready := rest }) c :=
            shows.of_eq rfl rfl fun _ _ waits => waits
          exact (follows_poll ready job).bind fun c' shows' => ih shows'

theorem follows_advance (target fuel : Nat) (shows : Shows s c) :
    Follows c (Scheduled.advance target fuel s) := by
  induction fuel generalizing s c with
  | zero => exact shows.follows
  | succ fuel ih =>
      unfold Scheduled.advance
      cases (Scheduled.agenda s).nextDue? target with
      | none => exact shows.follows.of_eq rfl rfl fun _ _ waits => waits
      | some due =>
          have reached : Shows (Scheduled.withAgenda s ((Scheduled.agenda s).reach due)) c :=
            shows.of_eq rfl rfl fun _ _ waits => waits
          exact (follows_settle Scheduled.patience reached).bind fun c' shows' => ih shows'

theorem follows_notify (shows : Shows s c) (method : String) (params : Json) :
    Follows c (s.notify (.notification method params)).2 := by
  unfold notify
  rw [shows.session, shows.link]
  cases sent : c.session.notify c.link (.notification method params) with
  | error e => exact shows.follows
  | ok link =>
      have notified : c.notify (.notification method params) = { c with link } := by
        rw [Conversation.notify, sent]
      exact shows.step (.notify method params) notified rfl

theorem follows_dispose (shows : Shows s c) : Follows c s.dispose := by
  unfold dispose
  rw [shows.session]
  split
  · exact shows.follows
  · rename_i usable
    have disposed : c.dispose = ⟨c.session.dispose, c.link.stopListening, c.waiting,
        c.log ++ [.disposed]⟩ := if_neg usable
    rw [shows.link]
    exact (shows.step .dispose disposed rfl).of_eq rfl rfl fun _ _ waits => waits

/-- A caller that stops waiting, whether it has sent its request or not. -/
theorem follows_abort (shows : Shows s c) (number : Nat) : Follows c (s.act (.abort number)).2 := by
  cases found : s.callers.find? (·.number = number) with
  | none =>
      simp only [act, found]
      exact shows.follows
  | some d =>
      have mem := List.mem_of_find?_eq_some found
      have own : d.number = number := by simpa using List.find?_some found
      cases phase : d.phase with
      | starting =>
          simp only [act, found, phase]
          exact shows.follows.of_eq rfl rfl fun _ _ waits => (waits_forget.1 waits).1
      | waiting id due =>
          simp only [act, found, phase]
          have waits : s.Waits number id := ⟨d, mem, own, due, phase⟩
          -- The caller waits for its request, which it gives up together with its slot.
          refine ⟨[.drop id], ?_⟩
          have faithful := shows.faithful.drop id
          show Shows _ (c.drop id)
          unfold Conversation.drop at faithful ⊢
          rw [if_pos (shows.waits number id waits)] at faithful ⊢
          refine ⟨faithful, ?_, shows.link, ?_, ?_⟩
          · show s.session.abandon id = _
            rw [shows.session]
          · intro other id' waits'
            obtain ⟨waits', apart⟩ := waits_forget.1 waits'
            refine List.mem_filter.2 ⟨shows.waits other id' waits', decide_eq_true ?_⟩
            rintro rfl
            exact apart (shows.apart other number id' waits' waits)
          · exact fun _ _ _ => shows.apart_of_forget

/-- The link goes on without its session, as a deed says. -/
theorem follows_link (shows : Shows s c) (next : Link Message → Link Message) (deed : Deed)
    (moves : c.act deed = { c with link := next c.link }) :
    Follows c { s with link := next s.link } := by
  refine (shows.step deed moves rfl).of_eq shows.session ?_ fun _ _ waits => waits
  exact congrArg next shows.link

/-- A caller that has not started does not wait. -/
theorem follows_ask (shows : Shows s c) (question : Question) :
    Follows c (s.act (.ask question)).2 := by
  refine shows.follows.of_eq rfl rfl ?_
  rintro number id ⟨d, mem, same, due, phase⟩
  rcases List.mem_append.1 mem with old | new
  · exact ⟨d, old, same, due, phase⟩
  · rw [List.mem_singleton.1 new] at phase
    cases phase

end Rehearsal.SessionStage

/-- A message that is moved on a stage by hand is a notification. -/
def Rehearsal.SessionStep.Notifies : Rehearsal.SessionStep → Prop
  | .notify message => ∃ method params, message = .notification method params
  | _ => True

namespace Rehearsal.SessionStage

variable {s : SessionStage} {c : Conversation}

/-- **A move of a stage is some deeds of its conversation**, with all that runs because of it. -/
theorem follows_act (shows : Shows s c) {step : SessionStep} (notifies : step.Notifies) :
    Follows c (s.act step).2 := by
  cases step with
  | ask question => exact follows_ask shows question
  | abort number => exact follows_abort shows number
  | notify message =>
      obtain ⟨method, params, rfl⟩ := notifies
      exact follows_notify shows method params
  | didOpen uri text => exact follows_notify shows _ _
  | feed text =>
      simp only [act]
      split
      · exact (follows_link shows (Link.feed · text) (.peerFeed text) rfl).of_eq rfl rfl
          fun _ _ waits => waits
      · exact shows.follows
  | endFeed =>
      exact (follows_link shows Link.endFeed .peerEndFeed rfl).of_eq rfl rfl
        fun _ _ waits => waits
  | peerState state =>
      simp only [act]
      split
      · exact follows_link shows (Link.setState · state) (.peerState state) rfl
      · exact shows.follows
  | dropPeer =>
      exact (follows_link shows Link.dropPeer .peerGone rfl).of_eq rfl rfl
        fun _ _ waits => waits
  | close => exact follows_link shows Link.close .close rfl
  | dispose => exact follows_dispose shows
  | advance ms => exact follows_advance _ _ shows
  | nothing => exact shows.follows

/-- Whatever is moved on a stage, each of its sights is that of a conversation. -/
theorem follows_run {steps : List SessionStep} (shows : Shows s c)
    (notifies : ∀ step ∈ steps, step.Notifies) :
    ∀ sight ∈ s.run steps, Follows c sight.stage := by
  induction steps generalizing s c with
  | nil =>
      intro sight mem
      cases mem
  | cons step rest ih =>
      have silent : Shows { s with told := [] } c := shows.of_eq rfl rfl fun _ _ waits => waits
      intro sight mem
      refine (follows_act silent (notifies step (by simp))).bind fun c₁ moved => ?_
      refine (follows_settle Scheduled.patience moved).bind fun c₂ settled => ?_
      have taken := follows_link settled (fun l => { l with taken := l.queued.length })
        (.peerTook _) rfl
      rcases List.mem_cons.1 mem with rfl | later
      · exact taken
      · refine taken.bind fun c₃ shows' => ?_
        exact ih shows' (fun step' mem' => notifies step' (by simp [mem'])) sight later

/-- So requests and answers are matched exactly on every stage. -/
theorem run_is_exact (state : SocketState) (languageId : String) (requestTimeout : Duration)
    {steps : List SessionStep} (notifies : ∀ step ∈ steps, step.Notifies) :
    ∀ sight ∈ (fresh state languageId requestTimeout).run steps,
      ∃ c : Conversation, c.Exact ∧ sight.stage.session = c.session ∧ sight.stage.link = c.link := by
  intro sight mem
  obtain ⟨deeds, shows⟩ := follows_run (.fresh state languageId requestTimeout) notifies sight mem
  exact ⟨_, shows.faithful.exact, shows.session, shows.link⟩

end Rehearsal.SessionStage
end LanguageBridge
