import LanguageBridge.Link

/-!
# Rehearsing a link

The two ends of a single link, moved step by step.  Its frames are plain texts.
-/

namespace LanguageBridge.Rehearsal

/-- One move of either end of a link. -/
inductive LinkStep where
  | send (text : String)
  | close
  /-- Somebody starts to wait for the socket to close. -/
  | waitClosed
  | peerTake
  | peerFeed (text : String)
  | receive
  | stopListening
  | peerState (state : SocketState)
  | dropPeer

/-- What a move gives back. -/
inductive LinkValue where
  | nothing
  | sent (outcome : Except Failure Unit)
  | taken (entry : Option (Outbound String))
  | fed (arrived : Bool)
  | received (text : Option String)

/-- A link, and whether somebody waits for it to close. -/
structure LinkStage where
  link : Link String
  waited : Bool

namespace LinkStage

/-- A stage with a fresh link. -/
def fresh (state : SocketState) : LinkStage := ⟨.fresh state, false⟩

/-- One move. -/
def step (s : LinkStage) : LinkStep → LinkValue × LinkStage
  | .send text =>
    match s.link.send text with
    | .ok l => (.sent (.ok ()), { s with link := l })
    | .error e => (.sent (.error e), s)
  | .close => (.nothing, { s with link := s.link.close })
  | .waitClosed => (.nothing, { s with waited := true })
  | .peerTake =>
    let (entry, l) := s.link.take
    (.taken entry, { s with link := l })
  | .peerFeed text =>
    if s.link.peer then (.fed s.link.mayFeed, { s with link := s.link.feed text })
    else (.nothing, s)
  | .receive =>
    let (text, l) := s.link.receive
    (.received text, { s with link := l })
  | .stopListening => (.nothing, { s with link := s.link.stopListening })
  | .peerState state =>
    (.nothing, if s.link.peer then { s with link := s.link.setState state } else s)
  | .dropPeer => (.nothing, { s with link := s.link.dropPeer })

/-- Whether the wait for the socket to close is over, once somebody waits. -/
def closeSeen (s : LinkStage) : Option Bool :=
  if s.waited then some (s.link.state = .closed) else none

/-- The stage after each of some moves, with what the move gave back. -/
def run (s : LinkStage) : List LinkStep → List (LinkValue × LinkStage)
  | [] => []
  | move :: rest =>
    let (value, s) := s.step move
    (value, s) :: s.run rest

end LinkStage
end LanguageBridge.Rehearsal
