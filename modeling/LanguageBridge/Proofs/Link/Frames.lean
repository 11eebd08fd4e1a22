import LanguageBridge.Link

/-!
# What a link carries, and the order of socket states

Everything that was ever queued for the peer is kept, so the frames a connection carried are a list
that can only grow.  `Link.frames` is that list without the requests to close.  Of the operations on
a link only `Link.send` adds to it: closing, reading, and whatever the peer does leave it as it is.

`SocketState.rank` numbers the states of a socket in the order in which a connection goes through
them.  Neither `Link.close` nor the loss of the peer moves a socket back in that order;
`Link.setState` may, which is why runs in which no peer does so have to be singled out where it
matters.

## How the lemmas are named

`frames_…`, `queued_…`, `listening_…`, `rank_…` and `state_…` say of one operation each what becomes
of that part of a link.  Most are equations and simp lemmas, so that a proof about a session or a
client never opens an operation on a link.
-/

namespace LanguageBridge

namespace SocketState

/-- The place of a state in the life of a socket. -/
def rank : SocketState → Nat
  | .connecting => 0
  | .opened => 1
  | .closing => 2
  | .closed => 3

theorem rank_le_closed (s : SocketState) : s.rank ≤ SocketState.closed.rank := by
  cases s <;> decide

/-- The states from `closing` on are those in which nothing is carried any more. -/
theorem closing_le_iff (s : SocketState) :
    SocketState.closing.rank ≤ s.rank ↔ s = .closing ∨ s = .closed := by
  cases s <;> decide

end SocketState

namespace Outbound

/-- The frame of an entry; a request to close has none. -/
def frame? {φ : Type} : Outbound φ → Option φ
  | .frame f => some f
  | .close => none

end Outbound

namespace Link

variable {φ : Type}

/-- The frames ever queued for the peer, the oldest one first. -/
def frames (l : Link φ) : List φ := l.queued.filterMap Outbound.frame?

/-- The request to close is queued, but it is no frame. -/
@[simp] theorem frames_close (l : Link φ) : l.close.frames = l.frames := by
  unfold close
  split
  · simp [frames, Outbound.frame?]
  · rfl

@[simp] theorem frames_stopListening (l : Link φ) : l.stopListening.frames = l.frames := rfl

@[simp] theorem frames_setState (l : Link φ) (next : SocketState) :
    (l.setState next).frames = l.frames := by
  unfold setState
  split <;> rfl

/-- A peer that is gone leaves on record what was queued for it. -/
@[simp] theorem frames_dropPeer (l : Link φ) : l.dropPeer.frames = l.frames :=
  frames_setState l .closed

@[simp] theorem frames_feed (l : Link φ) (text : String) : (l.feed text).frames = l.frames := by
  unfold feed
  split <;> rfl

@[simp] theorem frames_endFeed (l : Link φ) : l.endFeed.frames = l.frames := rfl

/-- A socket that is asked to close is still listened to. -/
@[simp] theorem listening_close (l : Link φ) : l.close.listening = l.listening := by
  unfold close
  split <;> rfl

@[simp] theorem listening_setState (l : Link φ) (next : SocketState) :
    (l.setState next).listening = l.listening := by
  unfold setState
  split <;> rfl

/-- A peer that is gone may have left texts behind, and these can still be read. -/
@[simp] theorem listening_dropPeer (l : Link φ) : l.dropPeer.listening = l.listening :=
  listening_setState l .closed

@[simp] theorem listening_feed (l : Link φ) (text : String) :
    (l.feed text).listening = l.listening := by
  unfold feed
  split <;> rfl

/-- What the peer takes has nothing to do with listening. -/
@[simp] theorem listening_take (l : Link φ) : l.take.2.listening = l.listening := by
  unfold take
  split <;> rfl

/-- Closing moves a socket forward, or leaves it where it is. -/
theorem rank_close (l : Link φ) : l.state.rank ≤ l.close.state.rank := by
  unfold close mayClose
  split
  · rename_i open_
    rcases l with ⟨state, _, _, _, _, _, _⟩
    cases state <;> simp_all [SocketState.rank]
  · exact Nat.le_refl _

/-- A peer that moves the socket forward does not move it back: a closed socket stays closed. -/
theorem rank_setState (l : Link φ) {next : SocketState} (onward : l.state.rank ≤ next.rank) :
    l.state.rank ≤ (l.setState next).state.rank := by
  unfold setState
  split
  · exact Nat.le_refl _
  · exact onward

/-- The loss of the peer closes the socket, and nothing comes after that. -/
theorem rank_dropPeer (l : Link φ) : l.state.rank ≤ l.dropPeer.state.rank :=
  rank_setState l l.state.rank_le_closed

@[simp] theorem state_feed (l : Link φ) (text : String) : (l.feed text).state = l.state := by
  unfold feed
  split <;> rfl

@[simp] theorem state_take (l : Link φ) : l.take.2.state = l.state := by
  unfold take
  split <;> rfl

/-- A socket that was asked to close is closing at least. -/
theorem closing_le_rank_close (l : Link φ) : SocketState.closing.rank ≤ l.close.state.rank := by
  unfold close mayClose
  split
  · exact Nat.le_refl _
  · rename_i shut
    rcases l with ⟨state, _, _, _, _, _, _⟩
    cases state <;> simp_all [SocketState.rank]

/-! ## The queue -/

@[simp] theorem queued_setState (l : Link φ) (next : SocketState) :
    (l.setState next).queued = l.queued := by
  unfold setState
  split <;> rfl

@[simp] theorem queued_dropPeer (l : Link φ) : l.dropPeer.queued = l.queued :=
  queued_setState l .closed

@[simp] theorem queued_feed (l : Link φ) (text : String) : (l.feed text).queued = l.queued := by
  unfold feed
  split <;> rfl

@[simp] theorem queued_endFeed (l : Link φ) : l.endFeed.queued = l.queued := rfl

@[simp] theorem queued_stopListening (l : Link φ) : l.stopListening.queued = l.queued := rfl

/-- What was taken stays in the queue, and is only counted. -/
@[simp] theorem queued_take (l : Link φ) : l.take.2.queued = l.queued := by
  unfold take
  split <;> rfl

/-- A request to close is queued behind what was there. -/
theorem queued_close_prefix (l : Link φ) : l.queued <+: l.close.queued := by
  rw [queued_close]
  split
  · exact List.prefix_append _ _
  · exact List.prefix_refl _

/-- What is queued behind a queue without another frame is a request to close. -/
theorem not_frame_of_frames_eq {l l' : Link φ} {more : List (Outbound φ)}
    (queued : l'.queued = l.queued ++ more) (frames : l'.frames = l.frames) (f : φ) :
    Outbound.frame f ∉ more := by
  intro mem
  have none : more.filterMap Outbound.frame? = [] := by
    rwa [Link.frames, Link.frames, queued, List.filterMap_append,
      List.append_right_eq_self] at frames
  have carried : f ∈ more.filterMap Outbound.frame? := List.mem_filterMap.2 ⟨_, mem, rfl⟩
  rw [none] at carried
  cases carried

/-- A frame that is sent changes nothing but the queue. -/
theorem send_eq {l l' : Link φ} {f : φ} (sent : l.send f = .ok l') :
    l' = { l with queued := l.queued ++ [.frame f] } :=
  (send_eq_ok_iff.1 sent).2.2

end Link
end LanguageBridge
