import LanguageBridge.Client.System

/-!
# The other end of a connection

What the server's end of a connection can do to it, and which jobs of the client that makes ready.
-/

namespace LanguageBridge.Client.System

/-- The attempts that wait for the socket of a connection to close. -/
def watchers (s : System) (c : Nat) : List Job :=
  s.attempts.filterMap fun a =>
    if a.phase = .watching c then some (.attempt a.generation) else none

/-- The peer moves the state of the socket. -/
def peerState (s : System) (c : Nat) (state : SocketState) : System :=
  let s := s.update c fun k => { k with link := k.link.setState state }
  if state = .closed then s.wakeAll (s.watchers c) else s

/-- The peer feeds a text. -/
def peerFeed (s : System) (c : Nat) (text : String) : System :=
  if (s.connection c).link.mayFeed then
    (s.update c fun k => { k with link := k.link.feed text }).wake (.reader c)
  else s

/-- The peer feeds nothing more. -/
def peerEndFeed (s : System) (c : Nat) : System :=
  (s.update c fun k => { k with link := k.link.endFeed }).wake (.reader c)

/-- The peer goes away: the socket closes first, and then the stream of texts ends. -/
def peerGone (s : System) (c : Nat) : System :=
  let s := s.peerState c .closed
  (s.update c fun k => { k with link := k.link.dropPeer }).wake (.reader c)

/-- The peer takes what is queued for it next. -/
def peerTake (s : System) (c : Nat) : Option (Outbound Message) × System :=
  let (entry, link) := (s.connection c).link.take
  (entry, s.update c fun k => { k with link })

/-- Whether anybody on this side still holds the socket of a connection. -/
def holds (s : System) (c : Nat) : Bool :=
  (s.alive && (s.state.socket = some c || s.state.current = some c))
  || s.attempts.any (·.phase.session? = some c)
  || (s.connection c).link.listening
  || s.requests.any (·.connection? = some c)

end LanguageBridge.Client.System
