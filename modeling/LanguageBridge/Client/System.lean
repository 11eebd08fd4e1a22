import LanguageBridge.Agenda
import LanguageBridge.Client.Connection
import LanguageBridge.Client.Options
import LanguageBridge.Editor.Registry
import LanguageBridge.Editor.Shaping
import LanguageBridge.Host.Message
import LanguageBridge.Monitor
import LanguageBridge.Retry

/-!
# The client and everything that runs for it

A client keeps one connection to one language server.  What it knows is its `State`; what runs for
it are *attempts* to keep a connection, *pauses* before a retry, *health checks* and the
*requests* of the editor.  All of them share one agenda, on which each is a `Job`.

Every connection attempt has a generation, one higher than the one before; whatever an older
generation reports is out of date.  The session of a connection is named by the number of its
connection.

A `System` holds all of this, together with the provider registry of the editor and what has come
out of the requests.
-/

namespace LanguageBridge.Client

open Editor (Feature Subject Snippet)

/-! ## Jobs -/

/-- What can be ready to run. -/
inductive Job where
  /-- The connection attempt of a generation. -/
  | attempt (generation : Nat)
  /-- The reader of the texts that arrive on a connection. -/
  | reader (connection : Nat)
  /-- The pause before the retry with a token. -/
  | pause (token : Nat)
  /-- A series of health checks. -/
  | checks (id : Nat)
  /-- A request of the editor. -/
  | request (number : Nat)
  /-- The other end of a connection. -/
  | peer (connection : Nat)
  /-- A text on its way to the client. -/
  | parcel (number : Nat)
  deriving DecidableEq, Repr

/-- How far a connection attempt has come. -/
inductive Phase where
  /-- The connector has not been asked. -/
  | starting
  /-- The connector has been asked for a connection. -/
  | opening (connection : Nat)
  /-- The server has been greeted with a request. -/
  | handshaking (connection : Nat) (id : Nat) (due : Nat)
  /-- The session is installed, and the attempt waits for the socket to close. -/
  | watching (connection : Nat)
  deriving DecidableEq, Repr

/-- A connection attempt, from opening the connection to its close. -/
structure Attempt where
  generation : Nat
  endpoint : String
  phase : Phase
  deriving DecidableEq, Repr

/-- The time before a retry; it has a due time once it has begun. -/
structure Pause where
  token : Nat
  delay : Duration
  due : Option Nat
  deriving DecidableEq, Repr

/-- A series of health checks. -/
structure Checks where
  id : Nat
  monitor : Monitor
  deriving DecidableEq, Repr

/-- Who has made a request. -/
inductive Origin where
  /-- The editor itself, which numbers its requests. -/
  | editor (task : Nat)
  /-- The host, through the bridge. -/
  | host
  deriving DecidableEq, Repr

/-- Which provider a request goes to. -/
inductive Target where
  /-- The one that is registered for a language when the request starts. -/
  | registered (language : String)
  /-- A provider taken from the registry before. -/
  | held
  deriving DecidableEq, Repr

/-- How far a request has come. -/
inductive Stage where
  | starting
  /-- The request waits for an answer on a connection; the server saw the text moved down by some
  lines. -/
  | waiting (connection : Nat) (id : Nat) (due : Nat) (lines : UInt32)
  deriving DecidableEq, Repr

/-- A request of the editor for a feature at a place of a text. -/
structure Request where
  number : Nat
  origin : Origin
  feature : Feature
  target : Target
  text : String
  place : Editor.Position
  stage : Stage
  deriving DecidableEq, Repr

namespace Phase

/-- The connection whose session an attempt keeps. -/
def session? : Phase → Option Nat
  | .starting => none
  | .opening _ => none
  | .handshaking c _ _ => some c
  | .watching c => some c

end Phase

namespace Request

/-- The connection whose session a request waits for. -/
def connection? (r : Request) : Option Nat :=
  match r.stage with
  | .starting => none
  | .waiting c _ _ _ => some c

end Request

/-! ## The client -/

/-- Who is shown the signature help that the editor is given. -/
inductive Observer where
  | host
  | recorder
  deriving DecidableEq, Repr

/-- The session that was installed last, and in which generation. -/
structure Installation where
  connection : Nat
  generation : Nat
  deriving DecidableEq, Repr

/-- What a client knows. -/
structure State where
  options : Options
  destroyed : Bool
  preamble : Option String
  snippets : List Snippet
  observer : Option Observer
  endpoint : Option String
  generation : Nat
  /-- The connection whose socket the client holds. -/
  socket : Option Nat
  /-- The connection whose session is in use. -/
  current : Option Nat
  installed : Option Installation
  retry : Retry
  /-- The health checks that are running. -/
  checks : Option Nat
  /-- The handles of the registered providers. -/
  handles : List Editor.Handle
  /-- The generation of the connection attempt that is running or ran last. -/
  task : Option Nat

namespace State

/-- A client that has done nothing. -/
def fresh (options : Options) : State where
  options := options
  destroyed := false
  preamble := none
  snippets := []
  observer := none
  endpoint := none
  generation := 0
  socket := none
  current := none
  installed := none
  retry := .fresh options.backoff options.forcedDelay
  checks := none
  handles := []
  task := none

end State

/-- A client with everything that runs for it. -/
structure System where
  agenda : Agenda Job
  state : State
  /-- Whether somebody outside still holds the client. -/
  owned : Bool
  /-- Every call of the connector, the first one first. -/
  connections : List Connection
  attempts : List Attempt
  pauses : List Pause
  series : List Checks
  requests : List Request
  registry : Editor.Registry
  /-- The number of sessions ever started. -/
  sessions : Nat
  /-- The number of series of health checks ever started. -/
  seriesMade : Nat
  /-- The number of sets of providers ever made. -/
  providersMade : Nat
  /-- The number of requests ever made. -/
  asked : Nat
  /-- The events for the host, the oldest one first. -/
  events : List Host.Event
  /-- The signature help shown to the recorder. -/
  observed : List Editor.SignatureHelp
  /-- The answers to the numbered requests of the editor. -/
  answers : List (Nat × Editor.Answer)

namespace System

/-- A system whose client has done nothing. -/
def fresh (options : Options) : System where
  agenda := .empty
  state := .fresh options
  owned := true
  connections := []
  attempts := []
  pauses := []
  series := []
  requests := []
  registry := .empty
  sessions := 0
  seriesMade := 0
  providersMade := 0
  asked := 0
  events := []
  observed := []
  answers := []

/-- The time. -/
def now (s : System) : Nat := s.agenda.now

/-- A job made ready. -/
def wake (s : System) (j : Job) : System := { s with agenda := s.agenda.wake j }

/-- Several jobs made ready, in order. -/
def wakeAll (s : System) (js : List Job) : System := js.foldl wake s

/-- A job that will not run any more. -/
def forget (s : System) (j : Job) : System := { s with agenda := s.agenda.forget j }

/-- A timer armed for a job. -/
def arm (s : System) (j : Job) (due : Nat) : System := { s with agenda := s.agenda.arm j due }

/-- The timers of a job taken away. -/
def disarm (s : System) (j : Job) : System := { s with agenda := s.agenda.disarm j }

/-- Whether the client is still there: somebody holds it, or a request in flight does. -/
def alive (s : System) : Bool := s.owned || s.requests.any fun r => r.connection?.isSome

/-! ## Connections -/

/-- A connection; one that never was is as good as one that was never opened. -/
def connection (s : System) (c : Nat) : Connection :=
  (s.connections[c]?).getD (.called "" 0)

/-- A connection changed. -/
def update (s : System) (c : Nat) (f : Connection → Connection) : System :=
  { s with connections := s.connections.modify c f }

@[simp] theorem state_wake (s : System) (j : Job) : (s.wake j).state = s.state := rfl

@[simp] theorem connection_wake (s : System) (j : Job) (c : Nat) :
    (s.wake j).connection c = s.connection c := rfl

@[simp] theorem state_wakeAll (s : System) (js : List Job) : (s.wakeAll js).state = s.state := by
  induction js generalizing s with
  | nil => rfl
  | cons j rest ih =>
    rw [wakeAll, List.foldl_cons, ← wakeAll, ih]
    rfl

@[simp] theorem connection_wakeAll (s : System) (js : List Job) (c : Nat) :
    (s.wakeAll js).connection c = s.connection c := by
  induction js generalizing s with
  | nil => rfl
  | cons j rest ih =>
    rw [wakeAll, List.foldl_cons, ← wakeAll, ih]
    rfl

@[simp] theorem state_update (s : System) (c : Nat) (f : Connection → Connection) :
    (s.update c f).state = s.state := rfl

theorem connection_update (s : System) {c : Nat} (f : Connection → Connection)
    (h : c < s.connections.length) : (s.update c f).connection c = f (s.connection c) := by
  simp [update, connection, List.getElem?_eq_getElem h]

theorem connection_update_of_ne (s : System) {c d : Nat} (f : Connection → Connection)
    (h : d ≠ c) : (s.update c f).connection d = s.connection d := by
  simp [update, connection, h.symm]

/-- Whether something has been queued for the peer between two states of a link. -/
def queuedMore (before after : Link Message) : Bool := before.queued.length < after.queued.length

/-- The session and the client's end of a connection moved on; the peer is made ready if it was
given something. -/
def exchange (s : System) (c : Nat) (session : Session) (link : Link Message) : System :=
  let before := (s.connection c).link
  let s := s.update c fun k => { k with session, link }
  if queuedMore before link then s.wake (.peer c) else s

/-- The server asked to close a connection. -/
def closeSocket (s : System) (c : Nat) : System :=
  let k := s.connection c
  s.exchange c k.session k.link.close

/-- The jobs that wait for one of some requests on a connection. -/
def waiters (s : System) (c : Nat) (ids : List Nat) : List Job :=
  s.attempts.filterMap (fun a =>
    match a.phase with
    | .handshaking d id _ => if d = c ∧ id ∈ ids then some (.attempt a.generation) else none
    | .starting => none
    | .opening _ => none
    | .watching _ => none)
  ++ s.requests.filterMap (fun r =>
    match r.stage with
    | .waiting d id _ _ => if d = c ∧ id ∈ ids then some (.request r.number) else none
    | .starting => none)

/-- The session of a connection disposed of: its reader stops, and its pending requests fail. -/
def dispose (s : System) (c : Nat) : System :=
  let k := s.connection c
  if k.session.disposed then s
  else ((s.update c .dispose).forget (.reader c)).wakeAll (s.waiters c k.session.pending)

/-- The session of a connection disposed of, if there is one. -/
def disposeAny (s : System) : Option Nat → System
  | none => s
  | some c => s.dispose c

/-- The server asked to close a connection, if there is one. -/
def closeAny (s : System) : Option Nat → System
  | none => s
  | some c => s.closeSocket c

@[simp] theorem state_exchange (s : System) (c : Nat) (session : Session) (link : Link Message) :
    (s.exchange c session link).state = s.state := by
  unfold exchange
  simp only []
  split <;> rfl

@[simp] theorem state_closeSocket (s : System) (c : Nat) : (s.closeSocket c).state = s.state :=
  state_exchange s c _ _

@[simp] theorem state_dispose (s : System) (c : Nat) : (s.dispose c).state = s.state := by
  unfold dispose
  simp only []
  split
  · rfl
  · rw [state_wakeAll]
    rfl

@[simp] theorem state_disposeAny (s : System) (c : Option Nat) :
    (s.disposeAny c).state = s.state := by
  cases c with
  | none => rfl
  | some c => exact state_dispose s c

@[simp] theorem state_closeAny (s : System) (c : Option Nat) :
    (s.closeAny c).state = s.state := by
  cases c with
  | none => rfl
  | some c => exact state_closeSocket s c

end System
end LanguageBridge.Client
