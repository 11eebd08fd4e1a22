import LanguageBridge.Client.Attempt
import LanguageBridge.Client.Background
import LanguageBridge.Client.Peer
import LanguageBridge.Client.Request

/-!
# Runs of a client

A run of a client is a sequence of actions in any order: what its owner asks of it, what its
connector and its peers do, time that passes, and jobs that run until they have to wait.  A job may
run at any time; one that still has to wait then waits on.
-/

namespace LanguageBridge.Client

namespace System

/-- One of the client's own jobs run until it has to wait. -/
def run (s : System) : Job → System
  | .attempt generation => s.runAttempt generation
  | .reader c => s.runReader c
  | .pause token => s.runPause token
  | .checks id => s.runChecks id
  | .request number => s.runRequest number
  | .peer _ => s
  | .parcel _ => s

/-- The preamble changed. -/
def setPreamble (s : System) (preamble : Option String) : System :=
  { s with state := { s.state with preamble } }

/-- The snippets changed. -/
def setSnippets (s : System) (snippets : List Editor.Snippet) : System :=
  { s with state := { s.state with snippets } }

/-- Another observer of signature help. -/
def setObserver (s : System) (observer : Observer) : System :=
  { s with state := { s.state with observer := some observer } }

/-- The capabilities of the server whose session is in use. -/
def capabilities (s : System) : Option Server.Capabilities :=
  s.state.current.map fun c => (s.connection c).session.capabilities

end System

/-- One action in a run. -/
inductive Action where
  | connect (endpoint : String)
  | setEndpoint (endpoint : String)
  | destroy
  | checkConnected
  | updateSettings (settings : Json)
  | setPreamble (preamble : Option String)
  | setSnippets (snippets : List Editor.Snippet)
  | setObserver (observer : Observer)
  | ask (origin : Origin) (feature : Editor.Feature) (target : Target) (text : String)
    (place : Editor.Position)
  /-- The owner lets go of the client. -/
  | disown
  /-- A job of the client runs. -/
  | run (job : Job)
  /-- Time passes. -/
  | wait (ms : Nat)
  /-- The connector fails the call of an attempt. -/
  | connectorFailed (generation : Nat)
  /-- The connector opens a connection for an attempt. -/
  | connectorOpened (generation : Nat) (state : SocketState)
  | peerState (c : Nat) (state : SocketState)
  | peerFeed (c : Nat) (text : String)
  | peerEndFeed (c : Nat)
  | peerGone (c : Nat)
  | peerTake (c : Nat)

namespace System

/-- One action done. -/
def act (s : System) : Action → System
  | .connect endpoint => s.connect endpoint
  | .setEndpoint endpoint => s.setEndpoint endpoint
  | .destroy => s.destroy
  | .checkConnected => s.isConnected.2
  | .updateSettings settings => (s.updateSettings settings).2
  | .setPreamble preamble => s.setPreamble preamble
  | .setSnippets snippets => s.setSnippets snippets
  | .setObserver observer => s.setObserver observer
  | .ask origin feature target text place => s.ask origin feature target text place
  | .disown => s.disown
  | .run job => s.run job
  | .wait ms => { s with agenda := s.agenda.reach (s.now + ms) }
  | .connectorFailed generation => s.connectorFailed generation
  | .connectorOpened generation state => s.connectorOpened generation state
  | .peerState c state => s.peerState c state
  | .peerFeed c text => s.peerFeed c text
  | .peerEndFeed c => s.peerEndFeed c
  | .peerGone c => s.peerGone c
  | .peerTake c => (s.peerTake c).2

/-- Some actions done one after another. -/
def acts (s : System) (actions : List Action) : System := actions.foldl act s

/-- The systems that a fresh client can come to. -/
inductive Reachable (options : Options) : System → Prop
  | fresh : Reachable options (.fresh options)
  | act {s : System} (a : Action) : Reachable options s → Reachable options (s.act a)

theorem acts_nil (s : System) : s.acts [] = s := rfl

theorem acts_cons (s : System) (a : Action) (rest : List Action) :
    s.acts (a :: rest) = (s.act a).acts rest := rfl

theorem Reachable.acts {options : Options} {s : System} (h : Reachable options s)
    (actions : List Action) : Reachable options (s.acts actions) := by
  induction actions generalizing s with
  | nil => exact h
  | cons a rest ih => exact ih (h.act a)

end System
end LanguageBridge.Client
