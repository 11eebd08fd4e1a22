import LanguageBridge.Client.Validity

/-!
# Requests of the editor

A request goes to a provider, which asks the client for the session in use.  If there is a valid
one whose server offers the feature, the full text is sent and right after it the request itself;
then the request waits for its answer.  In every other case, and whenever something fails, the
editor gets the answer that tells nothing.

The text, the place and the preamble are those of the moment at which the request was made or sent,
whatever changes while it waits.  The snippets are those of the moment at which the reply arrives.
-/

namespace LanguageBridge.Client.System

open Editor (Answer Feature Subject)

/-- A request made. -/
def ask (s : System) (origin : Origin) (feature : Feature) (target : Target) (text : String)
    (place : Editor.Position) : System :=
  let number := s.asked + 1
  { s with
    asked := number
    requests := s.requests ++ [Request.mk number origin feature target text place .starting] }.wake
      (.request number)

/-! ## Answering -/

/-- Signature help shown to whoever observes it. -/
def observe (s : System) (help : Editor.SignatureHelp) : System :=
  match s.state.observer with
  | none => s
  | some .host => { s with events := s.events ++ [Host.Event.signatureHelp help] }
  | some .recorder => { s with observed := s.observed ++ [help] }

/-- An answer given to whoever has made the request.  The host hears of signature help only by
observing it. -/
def deliver (s : System) (origin : Origin) (answer : Answer) : System :=
  match origin, answer with
  | .editor task, answer => { s with answers := s.answers ++ [(task, answer)] }
  | .host, .completion list => { s with events := s.events ++ [Host.Event.completion list] }
  | .host, .hover result => { s with events := s.events ++ [Host.Event.hover result] }
  | .host, .signatureHelp _ => s

/-- A request that is over, with its answer. -/
def finishRequest (s : System) (r : Request) (answer : Answer) : System :=
  ({ s with requests := s.requests.filter (·.number ≠ r.number) }.forget (.request r.number)
    |>.deliver r.origin answer).release

/-- The answer that follows from the outcome of a request on a connection, and what else follows
from it. -/
def conclude (s : System) (r : Request) (c : Nat) (lines : UInt32) (outcome : Outcome) :
    Answer × System :=
  match outcome with
  | .error e => (r.feature.nothing, s.requestFailed c e)
  | .ok reply =>
    match Answer.ofReply s.state.snippets ⟨r.text, r.place, lines⟩ r.feature reply with
    | .error e => (r.feature.nothing, s.requestFailed c e)
    | .ok (.signatureHelp help) => (.signatureHelp help, s.observe help)
    | .ok answer => (answer, s)

/-- What follows from the outcome of a request on a connection. -/
def settleRequest (s : System) (r : Request) (c : Nat) (lines : UInt32) (outcome : Outcome) :
    System :=
  let (answer, s) := s.conclude r c lines outcome
  s.finishRequest r answer

/-! ## Asking -/

/-- Whether a request reaches a provider. -/
def findsProvider (s : System) (r : Request) : Bool :=
  match r.target with
  | .held => true
  | .registered language => (s.registry.provider? ⟨r.feature, language⟩).isSome

/-- A request at another stage. -/
def setStage (s : System) (number : Nat) (stage : Stage) : System :=
  { s with requests := s.requests.map fun r => if r.number = number then { r with stage } else r }

/-- The request itself sent on a connection, after the text. -/
def sendRequest (s : System) (r : Request) (c : Nat) (lines : UInt32) : System :=
  let o := s.state.options
  let k := s.connection c
  let params := Message.placeParams o.documentUri (Preamble.toServer lines r.place)
  let (call, session, link) :=
    k.session.call k.link s.now k.session.requestTimeout r.feature.method params
  let s := s.exchange c session link
  match call with
  | .over outcome => s.settleRequest r c lines outcome
  | .waiting id due => (s.setStage r.number (.waiting c id due lines)).arm (.request r.number) due

/-- The text and the request sent on a connection whose server offers the feature. -/
def openDocument (s : System) (r : Request) (c : Nat) : System :=
  let preamble := s.state.preamble
  let text := Preamble.inFrontOf preamble r.text
  let languageId := (s.connection c).session.languageId
  match s.notify c (.didOpen s.state.options.documentUri languageId text) with
  | (.error _, s) => s.finishRequest r r.feature.nothing
  | (.ok (), s) => s.sendRequest r c (Preamble.lines preamble)

/-- A request started. -/
def startRequest (s : System) (r : Request) : System :=
  if !s.findsProvider r || !s.alive || s.state.destroyed then s.finishRequest r r.feature.nothing
  else
    match s.validSession with
    | (none, s) => s.finishRequest r r.feature.nothing
    | (some c, s) =>
      if r.feature.offeredBy (s.connection c).session.capabilities then s.openDocument r c
      else s.finishRequest r r.feature.nothing

/-- A request run until it has to wait. -/
def runRequest (s : System) (number : Nat) : System :=
  match s.requests.find? (·.number = number) with
  | none => s
  | some r =>
    match r.stage with
    | .starting => s.startRequest r
    | .waiting c id due lines =>
      let k := s.connection c
      let (call, session) := k.session.resume s.now id due
      let s := s.update c fun k => { k with session }
      match call with
      | .over outcome => s.settleRequest r c lines outcome
      | .waiting _ _ => s

end LanguageBridge.Client.System
