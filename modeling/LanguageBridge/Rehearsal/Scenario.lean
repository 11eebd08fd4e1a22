import LanguageBridge.Host.Bridge
import LanguageBridge.Rehearsal.Script

/-!
# Rehearsing a client

A whole client with its bridge and its provider registry, played against scripted servers on a
clock of its own.  The steps of a scenario move either side; after each one everything that is
ready runs, and the record of the step tells what has come out.
-/

namespace LanguageBridge.Rehearsal

open Client (Job System)
open Host (Bridge Flow)

/-- A text that a server sends later. -/
structure Parcel where
  number : Nat
  connection : Nat
  text : String
  delay : Nat
  /-- The due time, once the text is on its way. -/
  due : Option Nat

/-- A connection that is being opened. -/
structure Opening where
  generation : Nat
  due : Nat

/-- A provider that somebody has taken from the registry. -/
structure HeldProvider where
  feature : Editor.Feature
  provider : Nat

/-- A scenario under way. -/
structure Stage where
  bridge : Bridge
  script : Script
  parcels : List Parcel
  parcelsMade : Nat
  openings : List Opening
  /-- What the servers have received in this step, with the connection it came on. -/
  received : List (Nat × Outbound Message)
  /-- The number of requests that the editor has made. -/
  tasks : Nat
  held : List HeldProvider
  /-- The handles of providers that were registered again. -/
  handles : List Editor.Handle

/-- One move of a scenario. -/
inductive Step where
  | refuse (n : Nat)
  | hang (on : Bool)
  | linger (on : Bool)
  | openDelay (ms : Nat)
  | openState (state : SocketState)
  | capabilities (value : Json)
  | reply (method : String) (reply : ScriptedReply)
  | kill
  | peerState (state : SocketState)
  | push (text : String)
  | endFeed
  | connect (endpoint : String)
  | setEndpoint (endpoint : String)
  | destroy
  | isConnected
  | serverCapabilities
  | setPreamble (preamble : Option String)
  | preamble
  | setSnippets (snippets : List Editor.Snippet)
  | settings (settings : Json)
  | observe
  | line (line : String)
  | document
  | ask (feature : Editor.Feature) (language text : String) (place : Editor.Position)
  | hold (feature : Editor.Feature) (language : String)
  | askHeld (held : Nat) (text : String) (place : Editor.Position)
  | sameProvider (held : Nat) (language : String)
  | register (held : Nat) (language : String)
  | unregister (handle : Nat)
  | dropClient
  | advance (ms : Nat)
  | nothing

/-- What a move gives back. -/
inductive StepValue where
  | nothing
  | flag (b : Bool)
  | text (s : String)
  | flow (f : Flow)
  | capabilities (c : Server.Capabilities)
  | outcome (o : Except Failure Unit)

namespace Stage

/-- A scenario in which nothing has happened. -/
def fresh (options : Client.Options) (capabilities : Json) : Stage where
  bridge := .fresh (.fresh options)
  script := .obliging capabilities
  parcels := []
  parcelsMade := 0
  openings := []
  received := []
  tasks := 0
  held := []
  handles := []

/-- The client of a scenario with everything that runs for it. -/
def system (t : Stage) : System := t.bridge.system

/-- What a client does, done in a scenario. -/
def having (t : Stage) (f : System → System) : Stage := { t with bridge := t.bridge.having f }

/-- The connections whose servers are still there. -/
def live (t : Stage) : List Nat :=
  (List.range t.system.connections.length).filter fun c => (t.system.connection c).link.peer

/-- Something done by every server that is still there. -/
def everywhere (t : Stage) (f : System → Nat → System) : Stage :=
  t.having fun s => t.live.foldl f s

/-! ## The connector -/

/-- A connection opened for an attempt, with a server that attends to it. -/
def opened (t : Stage) (generation : Nat) : Stage :=
  t.having fun s =>
    match s.call? generation with
    | none => s
    | some c => (s.wake (.peer c)).connectorOpened generation t.script.openState

/-- The answer of the connector to a call: a refusal, none at all, or a connection, now or
later. -/
def answerCall (t : Stage) (generation : Nat) : Stage :=
  if 0 < t.script.refusals then
    { t with script := { t.script with refusals := t.script.refusals - 1 } }.having
      (·.connectorFailed generation)
  else if t.script.hangs then t
  else if t.script.openDelay = 0 then t.opened generation
  else
    let due := t.system.now + t.script.openDelay
    { t with openings := t.openings ++ [Opening.mk generation due] }.having
      (·.arm (.attempt generation) due)

/-- An attempt run until it has to wait, its calls of the connector answered. -/
def runAttempt (t : Stage) (generation : Nat) : Stage :=
  match t.system.call? generation with
  | some _ =>
    match t.openings.find? (·.generation = generation) with
    | some o => if o.due ≤ t.system.now then t.opened generation else t
    | none => t
  | none =>
    let t := t.having (·.runAttempt generation)
    if (t.system.call? generation).isSome then t.answerCall generation else t

/-! ## The servers -/

/-- A text sent to the client, at once or later. -/
def send (t : Stage) (c : Nat) (text : String) : Option Nat → Stage
  | none => t.having (·.peerFeed c text)
  | some delay =>
    let number := t.parcelsMade + 1
    { t with
      parcelsMade := number
      parcels := t.parcels ++ [Parcel.mk number c text delay none] }.having
        (·.wake (.parcel number))

/-- A message answered as the script says. -/
def respond (t : Stage) (c : Nat) : Message → Stage
  | .request id method _ =>
    let reply := t.script.reply method
    match reply.text.frame? id with
    | none => t
    | some text => t.send c text reply.delay
  | .notification _ _ => t
  | .acknowledgement _ => t

/-- One entry taken by a server: a message is answered, and a request to close ends the connection
unless the server lingers. -/
def serveNext (t : Stage) (c : Nat) : Stage :=
  let (entry, s) := t.system.peerTake c
  let t := t.having fun _ => s
  match entry with
  | none => t
  | some entry =>
    let t := { t with received := t.received ++ [(c, entry)] }
    match entry with
    | .frame m => t.respond c m
    | .close => if t.script.lingers then t else t.having (·.peerGone c)

/-- Everything that is queued for a server taken by it; it goes away when nobody holds the other
end of the connection. -/
def serve (t : Stage) (c : Nat) : Stage :=
  let t := ((t.system.connection c).link.waiting).foldl (fun t _ => t.serveNext c) t
  if t.system.holds c || !(t.system.connection c).link.peer then t else t.having (·.peerGone c)

/-- A text on its way: it sets out, or it arrives. -/
def runParcel (t : Stage) (number : Nat) : Stage :=
  match t.parcels.find? (·.number = number) with
  | none => t
  | some p =>
    let arrive := { t with parcels := t.parcels.filter (·.number ≠ number) }.having
      (·.peerFeed p.connection p.text)
    match p.due with
    | some due => if due ≤ t.system.now then arrive else t
    | none =>
      let due := t.system.now + p.delay
      if due ≤ t.system.now then arrive
      else
        let parcels := t.parcels.map fun (p : Parcel) =>
          if p.number = number then { p with due := some due } else p
        { t with parcels }.having (·.arm (.parcel number) due)

/-- The servers whose connections nobody holds any more made ready. -/
def notice (t : Stage) : Stage :=
  t.having fun s => s.wakeAll ((t.live.filter fun c => !s.holds c).map .peer)

/-- One job run until it has to wait. -/
def poll (job : Job) (t : Stage) : Stage :=
  let t := match job with
    | .attempt generation => t.runAttempt generation
    | .peer c => t.serve c
    | .parcel number => t.runParcel number
    | .reader c => t.having (·.run (.reader c))
    | .pause token => t.having (·.run (.pause token))
    | .checks id => t.having (·.run (.checks id))
    | .request number => t.having (·.run (.request number))
  t.notice

instance : Scheduled Stage Job where
  agenda t := t.system.agenda
  withAgenda t a := t.having fun s => { s with agenda := a }
  poll := poll

/-! ## Moves -/

/-- A numbered request of the editor. -/
def askEditor (t : Stage) (feature : Editor.Feature) (target : Client.Target) (text : String)
    (place : Editor.Position) : Stage :=
  let task := t.tasks + 1
  { t with tasks := task }.having fun s => s.ask (.editor task) feature target text place

/-- The numbered thing in a list; numbers count from one. -/
def numbered? {α : Type} (l : List α) (number : Nat) : Option α :=
  if number = 0 then none else l[number - 1]?

/-- What only somebody who holds the client can do. -/
def owner (t : Stage) (f : Stage → StepValue × Stage) : StepValue × Stage :=
  if t.system.owned then f t else (.nothing, t)

/-- A move without a value by somebody who holds the client. -/
def owning (t : Stage) (f : System → System) : StepValue × Stage :=
  t.owner fun t => (.nothing, t.having f)

/-- A move of the script. -/
def scripting (t : Stage) (f : Script → Script) : StepValue × Stage :=
  (.nothing, { t with script := f t.script })

/-- A provider taken from the registry. -/
def hold (t : Stage) (feature : Editor.Feature) (language : String) : StepValue × Stage :=
  match t.system.registry.provider? ⟨feature, language⟩ with
  | none => (.flag false, t)
  | some provider => (.flag true, { t with held := t.held ++ [HeldProvider.mk feature provider] })

/-- Whether the provider in place is one that was taken before. -/
def sameProvider (t : Stage) (held : Nat) (language : String) : StepValue × Stage :=
  match numbered? t.held held with
  | none => (.nothing, t)
  | some h =>
    match t.system.registry.provider? ⟨h.feature, language⟩ with
    | none => (.nothing, t)
    | some provider => (.flag (provider = h.provider), t)

/-- A provider that was taken before registered again. -/
def register (t : Stage) (held : Nat) (language : String) : StepValue × Stage :=
  match numbered? t.held held with
  | none => (.nothing, t)
  | some h =>
    let (handle, registry) := t.system.registry.register ⟨h.feature, language⟩ h.provider
    (.nothing, { t with handles := t.handles ++ [handle] }.having fun s => { s with registry })

/-- A provider that was registered again taken away. -/
def unregister (t : Stage) (handle : Nat) : StepValue × Stage :=
  match numbered? t.handles handle with
  | none => (.nothing, t)
  | some h => (.nothing, t.having fun s => { s with registry := s.registry.dispose h })

/-- One move, before what it makes ready has run. -/
def act (t : Stage) : Step → StepValue × Stage
  | .refuse n => t.scripting fun p => { p with refusals := n }
  | .hang on => t.scripting fun p => { p with hangs := on }
  | .linger on => t.scripting fun p => { p with lingers := on }
  | .openDelay ms => t.scripting fun p => { p with openDelay := ms }
  | .openState state => t.scripting fun p => { p with openState := state }
  | .capabilities value => t.scripting fun p => { p with capabilities := value }
  | .reply method reply => t.scripting fun p => p.setReply method reply
  | .kill => (.nothing, t.everywhere System.peerGone)
  | .peerState state => (.nothing, t.everywhere fun s c => s.peerState c state)
  | .push text => (.nothing, t.everywhere fun s c => s.peerFeed c text)
  | .endFeed => (.nothing, t.everywhere System.peerEndFeed)
  | .connect endpoint => t.owning (·.connect endpoint)
  | .setEndpoint endpoint => t.owning (·.setEndpoint endpoint)
  | .destroy => t.owning System.destroy
  | .isConnected => t.owner fun t =>
    let (answer, s) := t.system.isConnected
    (.flag answer, t.having fun _ => s)
  | .serverCapabilities => t.owner fun t =>
    match t.system.capabilities with
    | none => (.nothing, t)
    | some c => (.capabilities c, t)
  | .setPreamble preamble => t.owning (·.setPreamble preamble)
  | .preamble => t.owner fun t =>
    match t.system.state.preamble with
    | none => (.nothing, t)
    | some text => (.text text, t)
  | .setSnippets snippets => t.owning (·.setSnippets snippets)
  | .settings settings => t.owner fun t =>
    let (outcome, s) := t.system.updateSettings settings
    (.outcome outcome, t.having fun _ => s)
  | .observe => t.owning (·.setObserver .recorder)
  | .line line => t.owner fun t =>
    let (flow, bridge) := t.bridge.handleLine line
    (.flow flow, { t with bridge })
  | .document => t.owner fun t => (.text t.bridge.document, t)
  | .ask feature language text place =>
    (.nothing, t.askEditor feature (.registered language) text place)
  | .hold feature language => t.hold feature language
  | .askHeld held text place =>
    match numbered? t.held held with
    | none => (.nothing, t)
    | some h => (.nothing, t.askEditor h.feature .held text place)
  | .sameProvider held language => t.sameProvider held language
  | .register held language => t.register held language
  | .unregister handle => t.unregister handle
  | .dropClient => t.owning System.disown
  | .advance ms => (.nothing, Scheduled.advance (t.system.now + ms) Scheduled.patience t)
  | .nothing => (.nothing, t)

/-- What a scenario shows after a move: what the move gave back, and what has come out since the
move before. -/
structure Sight where
  value : StepValue
  /-- The calls of the connector. -/
  calls : List Client.Connection
  stage : Stage

/-- The stage without what has come out so far. -/
def quiet (t : Stage) : Stage :=
  { t with received := [] }.having fun s => { s with events := [], observed := [], answers := [] }

/-- A move, and everything that it makes ready. -/
def perform (t : Stage) (move : Step) : Sight :=
  let calls := t.system.connections.length
  let (value, t) := t.quiet.act move
  let t := Scheduled.settle Scheduled.patience t.notice
  ⟨value, t.system.connections.drop calls, t⟩

/-- What a scenario shows after each of some moves. -/
def run (t : Stage) : List Step → List Sight
  | [] => []
  | move :: rest =>
    let sight := t.perform move
    sight :: sight.stage.run rest

end Stage
end LanguageBridge.Rehearsal
