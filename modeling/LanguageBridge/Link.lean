import LanguageBridge.Failure

/-!
# Links

A link is one connection to a language server, seen from both ends.  The client queues frames for
the peer and may ask it to close; the peer moves the state of the socket, takes what is queued and
feeds texts back.  The state `closed` is final.

Everything that was ever queued for the peer is kept, together with the number of entries the
peer has taken, so what a connection carried can be read off its link.
-/

namespace LanguageBridge

/-- The states of a socket. -/
inductive SocketState where
  | connecting
  | opened
  | closing
  | closed
  deriving DecidableEq, Repr, Inhabited

namespace SocketState

/-- The name of a state. -/
def name : SocketState → String
  | .connecting => "Connecting"
  | .opened => "Open"
  | .closing => "Closing"
  | .closed => "Closed"

/-- The state with a name. -/
def ofName? : String → Option SocketState
  | "Connecting" => some .connecting
  | "Open" => some .opened
  | "Closing" => some .closing
  | "Closed" => some .closed
  | _ => none

end SocketState

/-- What is queued for the peer. -/
inductive Outbound (φ : Type) where
  | frame (f : φ)
  /-- The request to close. -/
  | close
  deriving DecidableEq, Repr

/-- One connection, seen from both ends. -/
structure Link (φ : Type) where
  state : SocketState
  /-- Everything ever queued for the peer, the oldest entry first. -/
  queued : List (Outbound φ)
  /-- How many of the queued entries the peer has taken. -/
  taken : Nat
  /-- Whether the peer is still there. -/
  peer : Bool
  /-- The texts fed by the peer and not yet read, the oldest first. -/
  inbound : List String
  /-- Whether the peer may still feed texts. -/
  feeding : Bool
  /-- Whether somebody still reads the texts. -/
  listening : Bool
  deriving DecidableEq, Repr

namespace Link

variable {φ : Type}

/-- A fresh link whose socket is in some state. -/
def fresh (state : SocketState) : Link φ := ⟨state, [], 0, true, [], true, true⟩

/-- How the socket of a link describes itself. -/
def describe (l : Link φ) : String := "Socket \x7b state: " ++ l.state.name ++ " \x7d"

/-! ## The client's end -/

/-- Whether the socket carries frames. -/
def isOpen (l : Link φ) : Bool := l.state = .opened

/-- A frame queued for the peer.  The socket has to be open. -/
def send (l : Link φ) (f : φ) : Except Failure (Link φ) :=
  if l.isOpen && l.peer then .ok { l with queued := l.queued ++ [.frame f] }
  else .error .connectionClosed

/-- Whether a request to close still makes a difference. -/
def mayClose (l : Link φ) : Bool := l.state = .connecting || l.state = .opened

/-- The peer asked to close.  Only the first request is queued. -/
def close (l : Link φ) : Link φ :=
  if l.mayClose then { l with state := .closing, queued := l.queued ++ [.close] } else l

/-- The oldest text that has not been read. -/
def receive (l : Link φ) : Option String × Link φ :=
  match l.inbound with
  | [] => (none, l)
  | text :: rest => (some text, { l with inbound := rest })

/-- Nobody reads the texts any more. -/
def stopListening (l : Link φ) : Link φ := { l with listening := false, inbound := [] }

/-! ## The peer's end -/

/-- The socket moved to another state, unless it is closed. -/
def setState (l : Link φ) (next : SocketState) : Link φ :=
  if l.state = .closed then l else { l with state := next }

/-- The peer gone: the socket is closed, and nothing is taken or fed any more. -/
def dropPeer (l : Link φ) : Link φ := { l.setState .closed with peer := false, feeding := false }

/-- The entries queued for the peer that it has not taken. -/
def waiting (l : Link φ) : List (Outbound φ) := if l.peer then l.queued.drop l.taken else []

/-- The oldest entry queued for the peer, taken by it. -/
def take (l : Link φ) : Option (Outbound φ) × Link φ :=
  match l.waiting with
  | [] => (none, l)
  | entry :: _ => (some entry, { l with taken := l.taken + 1 })

/-- Whether a text fed by the peer would arrive. -/
def mayFeed (l : Link φ) : Bool := l.feeding && l.listening

/-- A text fed by the peer.  It is lost if nobody reads any more. -/
def feed (l : Link φ) (text : String) : Link φ :=
  if l.mayFeed then { l with inbound := l.inbound ++ [text] } else l

/-- The peer feeds nothing more, but stays. -/
def endFeed (l : Link φ) : Link φ := { l with feeding := false }

theorem send_eq_ok_iff {l l' : Link φ} {f : φ} :
    l.send f = .ok l' ↔
      l.isOpen = true ∧ l.peer = true ∧ l' = { l with queued := l.queued ++ [.frame f] } := by
  unfold send
  split
  · rename_i h
    rw [Bool.and_eq_true] at h
    constructor
    · intro e
      exact ⟨h.1, h.2, (Except.ok.inj e).symm⟩
    · rintro ⟨-, -, e⟩
      rw [e]
  · rename_i h
    constructor
    · intro e
      exact absurd e (by simp)
    · rintro ⟨opened, peer, -⟩
      exact absurd (by rw [opened, peer]; rfl) h

theorem queued_close (l : Link φ) :
    l.close.queued = if l.mayClose then l.queued ++ [.close] else l.queued := by
  unfold close
  split <;> rfl

theorem waiting_of_noPeer {l : Link φ} (h : l.peer = false) : l.waiting = [] := by
  simp [waiting, h]

theorem setState_closed (l : Link φ) (next : SocketState) (h : l.state = .closed) :
    l.setState next = l := by
  simp [setState, h]

theorem close_close (l : Link φ) : l.close.close = l.close := by
  unfold close
  split <;> simp [mayClose, *] at *

end Link
end LanguageBridge
