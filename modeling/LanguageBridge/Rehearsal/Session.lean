import LanguageBridge.Agenda
import LanguageBridge.Session

/-!
# Rehearsing a session

A session on a link of its own, with callers that send requests and wait for them, and with the
peer moved by hand.
-/

namespace LanguageBridge.Rehearsal

/-- What runs beside the steps. -/
inductive SessionJob where
  /-- The reader of the server's texts. -/
  | reader
  | caller (number : Nat)
  deriving DecidableEq, Repr

/-- What a caller asks for. -/
inductive Question where
  /-- The handshake, within a time. -/
  | greeting (timeout : Duration)
  | request (method : String) (params : Json)

/-- What a caller is told. -/
inductive CallerAnswer where
  | greeted (capabilities : Server.Capabilities)
  | replied (value : Json)
  | failed (e : Failure)

/-- How far a caller has come. -/
inductive CallerPhase where
  | starting
  | waiting (id due : Nat)

/-- A caller that has not been told anything yet. -/
structure Caller where
  number : Nat
  question : Question
  phase : CallerPhase

/-- A session with its link and its callers. -/
structure SessionStage where
  agenda : Agenda SessionJob
  session : Session
  link : Link Message
  callers : List Caller
  /-- The number of callers so far. -/
  asked : Nat
  /-- What callers have been told. -/
  told : List (Nat × CallerAnswer)

/-- One move. -/
inductive SessionStep where
  | ask (question : Question)
  /-- A caller stops waiting. -/
  | abort (number : Nat)
  | notify (message : Message)
  | didOpen (uri text : String)
  | feed (text : String)
  | endFeed
  | peerState (state : SocketState)
  | dropPeer
  | close
  | dispose
  | advance (ms : Nat)
  | nothing

/-- What a move gives back. -/
inductive SessionValue where
  | nothing
  | sent (outcome : Except Failure Unit)
  | fed (arrived : Bool)

namespace SessionStage

/-- A stage with a fresh session on a fresh link. -/
def fresh (state : SocketState) (languageId : String) (requestTimeout : Duration) :
    SessionStage :=
  ⟨Agenda.empty.wake .reader, .fresh languageId requestTimeout, .fresh state, [], 0, []⟩

/-- The callers that wait for some requests made ready. -/
def wakeCallers (s : SessionStage) (ids : List Nat) : SessionStage :=
  let waits := fun (c : Caller) =>
    match c.phase with
    | .waiting id _ => id ∈ ids
    | .starting => false
  let wake := fun (a : Agenda SessionJob) (c : Caller) => a.wake (.caller c.number)
  { s with agenda := (s.callers.filter waits).foldl wake s.agenda }

/-- A caller that is there no more. -/
def forget (s : SessionStage) (number : Nat) : SessionStage :=
  { s with
    agenda := s.agenda.forget (.caller number)
    callers := s.callers.filter (·.number ≠ number) }

/-- A caller told something. -/
def tell (s : SessionStage) (number : Nat) (answer : CallerAnswer) : SessionStage :=
  { s.forget number with told := s.told ++ [(number, answer)] }

/-- What follows from the call of a caller. -/
def settleCall (s : SessionStage) (c : Caller) (call : Session.Call) : SessionStage :=
  match call with
  | .waiting id due =>
    let callers := s.callers.map fun d =>
      if d.number = c.number then { d with phase := .waiting id due } else d
    match c.phase with
    | .starting => { s with callers, agenda := s.agenda.arm (.caller c.number) due }
    | .waiting _ _ => { s with callers }
  | .over outcome =>
    match c.question with
    | .greeting _ =>
      let (result, session, link) := s.session.finishHandshake s.link outcome
      let answer := match result with
        | .ok capabilities => CallerAnswer.greeted capabilities
        | .error e => .failed e
      { s with session, link }.tell c.number answer
    | .request _ _ =>
      let answer := match outcome with
        | .ok value => CallerAnswer.replied value
        | .error e => .failed e
      s.tell c.number answer

/-- A caller that starts or looks for its answer. -/
def pollCaller (s : SessionStage) (number : Nat) : SessionStage :=
  match s.callers.find? (·.number = number) with
  | none => s
  | some c =>
    match c.phase with
    | .waiting id due =>
      let (call, session) := s.session.resume s.agenda.now id due
      { s with session }.settleCall c call
    | .starting =>
      let (call, session, link) :=
        match c.question with
        | .greeting timeout => s.session.greet s.link s.agenda.now timeout 0
        | .request method params =>
          s.session.call s.link s.agenda.now s.session.requestTimeout method params
      { s with session, link }.settleCall c call

/-- One text of the server read. -/
def readText (s : SessionStage) (text : String) : SessionStage :=
  let (session, link) := s.session.read s.link text
  { s with session, link }.wakeCallers (s.session.pending.filter fun id => id ∉ session.pending)

/-- All texts that have come read, and the end of the session if no more can come. -/
def pollReader (s : SessionStage) : SessionStage :=
  if !s.link.listening then s
  else
    let texts := s.link.inbound
    let s := texts.foldl readText { s with link := { s.link with inbound := [] } }
    if s.link.feeding then s
    else
      { s with session := s.session.endOfTexts, link := s.link.stopListening }.wakeCallers
        s.session.pending

/-- One job run until it has to wait. -/
def poll (job : SessionJob) (s : SessionStage) : SessionStage :=
  match job with
  | .reader => s.pollReader
  | .caller number => s.pollCaller number

instance : Scheduled SessionStage SessionJob where
  agenda := SessionStage.agenda
  withAgenda s a := { s with agenda := a }
  poll := poll

/-- The session disposed of: its reader stops, and its pending requests fail. -/
def dispose (s : SessionStage) : SessionStage :=
  if s.session.disposed then s
  else
    { s with
      session := s.session.dispose
      link := s.link.stopListening
      agenda := s.agenda.forget .reader }.wakeCallers s.session.pending

/-- A message that expects no reply. -/
def notify (s : SessionStage) (m : Message) : SessionValue × SessionStage :=
  match s.session.notify s.link m with
  | .ok link => (.sent (.ok ()), { s with link })
  | .error e => (.sent (.error e), s)

/-- One move, before what it makes ready has run. -/
def act (s : SessionStage) : SessionStep → SessionValue × SessionStage
  | .ask question =>
    let number := s.asked + 1
    (.nothing, { s with
      asked := number
      callers := s.callers ++ [⟨number, question, .starting⟩]
      agenda := s.agenda.wake (.caller number) })
  | .abort number =>
    match s.callers.find? (·.number = number) with
    | none => (.nothing, s)
    | some c =>
      let session := match c.phase with
        | .waiting id _ => s.session.abandon id
        | .starting => s.session
      (.nothing, { s with session }.forget number)
  | .notify message => s.notify message
  | .didOpen uri text => s.notify (Message.didOpen uri s.session.languageId text)
  | .feed text =>
    if s.link.peer then
      (.fed s.link.mayFeed,
        { s with link := s.link.feed text, agenda := s.agenda.wake .reader })
    else (.nothing, s)
  | .endFeed =>
    (.nothing, { s with link := s.link.endFeed, agenda := s.agenda.wake .reader })
  | .peerState state =>
    (.nothing, if s.link.peer then { s with link := s.link.setState state } else s)
  | .dropPeer =>
    (.nothing, { s with link := s.link.dropPeer, agenda := s.agenda.wake .reader })
  | .close => (.nothing, { s with link := s.link.close })
  | .dispose => (.nothing, s.dispose)
  | .advance ms => (.nothing, Scheduled.advance (s.agenda.now + ms) Scheduled.patience s)
  | .nothing => (.nothing, s)

/-- What a stage shows after a move. -/
structure Sight where
  value : SessionValue
  /-- What the peer received meanwhile. -/
  received : List (Outbound Message)
  told : List (Nat × CallerAnswer)
  stage : SessionStage

/-- The stage after each of some moves. -/
def run (s : SessionStage) : List SessionStep → List Sight
  | [] => []
  | move :: rest =>
    let (value, s) := { s with told := [] }.act move
    let s := Scheduled.settle Scheduled.patience s
    let received := s.link.waiting
    let s := { s with link := { s.link with taken := s.link.queued.length } }
    ⟨value, received, s.told, s⟩ :: s.run rest

end SessionStage
end LanguageBridge.Rehearsal
