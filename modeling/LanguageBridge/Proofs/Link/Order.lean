import LanguageBridge.Rehearsal.Link
import LanguageBridge.Proofs.Link.Frames

/-!
# The life of a socket, and the shape of its queue

A socket is meant to go through its states in one order, `connecting`, `opened`, `closing`,
`closed`, and what it queues for the peer is meant to be some texts and then at most one request to
close.  Both ends of the link write the state, and they guard it differently.  The client's end
closes a socket only if that still makes a difference.  The peer's end may put the socket into any
state, and refuses only once the socket is closed.

So there is exactly one kind of move that puts a socket back, `LinkStage.Reverts`: the peer names an
earlier state of a socket that is not closed.  `socket_order` says that a run keeps the order of the
states if and only if none of its moves is of that kind, and that the queue is well formed as long
as the peer does not reopen a socket that is closing.  A socket that is reopened after it was asked
to close takes frames behind the request, and asked again it queues a second one
(`not_wellFormed_of_reopened`).
-/

namespace LanguageBridge

namespace Outbound

variable {φ : Type}

/-- Some frames, and then at most one request to close. -/
def WellFormed (queue : List (Outbound φ)) : Prop :=
  ∃ frames : List φ, queue = frames.map .frame ∨ queue = frames.map .frame ++ [.close]

theorem close_notMem_frames (frames : List φ) : Outbound.close ∉ frames.map .frame := by
  simp

/-- In a well formed queue nothing stands behind a request to close. -/
theorem WellFormed.not_behind_close {queue : List (Outbound φ)} {entry : Outbound φ}
    (closed : Outbound.close ∈ queue) : ¬ WellFormed (queue ++ [entry]) := by
  rintro ⟨frames, shape | shape⟩
  · refine close_notMem_frames frames ?_
    rw [← shape]
    exact List.mem_append_left _ closed
  · obtain ⟨same, -⟩ := List.append_inj' shape rfl
    rw [same] at closed
    exact close_notMem_frames frames closed

end Outbound

namespace Rehearsal.LinkStage

variable {s : LinkStage} {move : LinkStep}

/-! ## The moves that put a socket back -/

/-- The peer names an earlier state of a socket that is not closed. -/
def Reverts (s : LinkStage) : LinkStep → Prop
  | .peerState next =>
    s.link.peer = true ∧ s.link.state ≠ .closed ∧ next.rank < s.link.state.rank
  | _ => False

/-- The peer takes a socket that is closing back to an earlier state. -/
def Reopens (s : LinkStage) (move : LinkStep) : Prop := s.link.state = .closing ∧ s.Reverts move

/-- No move of a run is of some kind. -/
def Without (kind : LinkStage → LinkStep → Prop) : LinkStage → List LinkStep → Prop
  | _, [] => True
  | s, move :: rest => ¬ kind s move ∧ Without kind (s.step move).2 rest

/-- The stages of a run, the first one included. -/
def stages (s : LinkStage) (moves : List LinkStep) : List LinkStage :=
  s :: (s.run moves).map Prod.snd

theorem stages_cons (s : LinkStage) (move : LinkStep) (rest : List LinkStep) :
    s.stages (move :: rest) = s :: (s.step move).2.stages rest := rfl

/-- What one move does to the state of the socket and to its queue. -/
inductive Change (s : LinkStage) (move : LinkStep) (t : LinkStage) : Prop where
  /-- Nothing is queued, and the socket does not go back. -/
  | onward (queued : t.link.queued = s.link.queued) (rank : s.link.state.rank ≤ t.link.state.rank)
  /-- Nothing is queued, and the peer puts the socket back. -/
  | back (reverts : s.Reverts move) (queued : t.link.queued = s.link.queued)
  /-- A frame is queued on an open socket. -/
  | sent (text : String) (queued : t.link.queued = s.link.queued ++ [.frame text])
      (opened : s.link.state = .opened) (state : t.link.state = .opened)
  /-- The socket is asked to close, which it was not already. -/
  | asked (queued : t.link.queued = s.link.queued ++ [.close])
      (rank : s.link.state.rank < SocketState.closing.rank) (state : t.link.state = .closing)

/-- A text is put into the queue of an open socket, and refused otherwise. -/
theorem change_send (s : LinkStage) (text : String) :
    Change s (.send text) (s.step (.send text)).2 := by
  cases sent : s.link.send text with
  | error e =>
    simp only [step, sent]
    exact .onward rfl (Nat.le_refl _)
  | ok l =>
    simp only [step, sent]
    obtain ⟨isOpen, -, rfl⟩ := Link.send_eq_ok_iff.1 sent
    have opened : s.link.state = .opened := of_decide_eq_true isOpen
    exact .sent text rfl opened opened

/-- A socket is asked to close if that makes a difference. -/
theorem change_close (s : LinkStage) : Change s .close (s.step .close).2 := by
  simp only [step]
  by_cases asked : s.link.mayClose = true
  · have early : s.link.state = .connecting ∨ s.link.state = .opened := by
      simpa [Link.mayClose] using asked
    refine .asked ?_ ?_ ?_
    · rw [Link.queued_close, if_pos asked]
    · rcases early with early | early <;> rw [early] <;> decide
    · simp [Link.close, asked]
  · have same : s.link.close = s.link := by simp [Link.close, asked]
    rw [same]
    exact .onward rfl (Nat.le_refl _)

theorem change_peerState (s : LinkStage) (next : SocketState) :
    Change s (.peerState next) (s.step (.peerState next)).2 := by
  simp only [step]
  split
  · rename_i peer
    by_cases shut : s.link.state = .closed
    · rw [Link.setState_closed _ _ shut]
      exact .onward rfl (Nat.le_refl _)
    · by_cases earlier : next.rank < s.link.state.rank
      · exact .back ⟨peer, shut, earlier⟩ (Link.queued_setState _ _)
      · exact .onward (Link.queued_setState _ _) (Link.rank_setState _ (Nat.not_lt.1 earlier))
  · exact .onward rfl (Nat.le_refl _)

/-- The moves of both ends, one by one. -/
theorem change_step (s : LinkStage) (move : LinkStep) : Change s move (s.step move).2 := by
  cases move with
  | send text => exact change_send s text
  | close => exact change_close s
  | waitClosed => exact .onward rfl (Nat.le_refl _)
  | peerTake => exact .onward (Link.queued_take _) (Nat.le_of_eq (by rw [step, Link.state_take]))
  | peerFeed text =>
    simp only [step]
    split
    · exact .onward (Link.queued_feed _ _) (Nat.le_of_eq (by rw [Link.state_feed]))
    · exact .onward rfl (Nat.le_refl _)
  | receive =>
    refine .onward ?_ ?_ <;> simp only [step, Link.receive] <;> split <;> simp
  | stopListening => exact .onward rfl (Nat.le_refl _)
  | peerState next => exact change_peerState s next
  | dropPeer => exact .onward (Link.queued_dropPeer _) (Link.rank_dropPeer _)

/-- The moves that put a socket back do so. -/
theorem rank_lt_of_reverts (reverts : s.Reverts move) :
    (s.step move).2.link.state.rank < s.link.state.rank := by
  cases move with
  | peerState next =>
    obtain ⟨peer, shut, earlier⟩ := reverts
    simpa only [step, if_pos peer, Link.setState, if_neg shut] using earlier
  | _ => exact reverts.elim

/-- No other move puts a socket back. -/
theorem reverts_iff :
    s.Reverts move ↔ (s.step move).2.link.state.rank < s.link.state.rank := by
  refine ⟨rank_lt_of_reverts, fun back => ?_⟩
  cases change_step s move with
  | onward _ rank => exact absurd back (Nat.not_lt.2 rank)
  | back reverts _ => exact reverts
  | sent _ _ opened state =>
    rw [state, opened] at back
    exact absurd back (Nat.lt_irrefl _)
  | asked _ rank state =>
    rw [state] at back
    exact absurd rank (Nat.lt_asymm back)

/-! ## The queue of a socket that is not reopened -/

/-- The queue is well formed, and a request to close was queued only if the socket is closing. -/
def Orderly (s : LinkStage) : Prop :=
  ∃ texts : List String, s.link.queued = texts.map .frame ∨
    (s.link.queued = texts.map .frame ++ [.close] ∧
      SocketState.closing.rank ≤ s.link.state.rank)

theorem Orderly.wellFormed (orderly : s.Orderly) : Outbound.WellFormed s.link.queued := by
  obtain ⟨texts, frames | ⟨closed, -⟩⟩ := orderly
  · exact ⟨texts, .inl frames⟩
  · exact ⟨texts, .inr closed⟩

theorem orderly_fresh (state : SocketState) : (fresh state).Orderly := ⟨[], .inl rfl⟩

/-- A socket from `closing` on takes nothing more, so only a reopened one could queue something
behind a request to close. -/
theorem Orderly.step (orderly : s.Orderly) (kept : ¬ s.Reopens move) :
    (s.step move).2.Orderly := by
  obtain ⟨texts, frames | ⟨closed, late⟩⟩ := orderly
  · cases change_step s move with
    | onward queued _ => exact ⟨texts, .inl (queued.trans frames)⟩
    | back _ queued => exact ⟨texts, .inl (queued.trans frames)⟩
    | sent text queued _ _ =>
      refine ⟨texts ++ [text], .inl ?_⟩
      rw [queued, frames, List.map_append, List.map_singleton]
    | asked queued _ state =>
      exact ⟨texts, .inr ⟨by rw [queued, frames], Nat.le_of_eq (by rw [state])⟩⟩
  · cases change_step s move with
    | onward queued rank => exact ⟨texts, .inr ⟨queued.trans closed, Nat.le_trans late rank⟩⟩
    | back reverts queued =>
      have shut := (SocketState.closing_le_iff _).1 late
      cases move with
      | peerState next => exact absurd ⟨shut.resolve_right reverts.2.1, reverts⟩ kept
      | _ => exact reverts.elim
    | sent _ _ opened _ =>
      rw [opened] at late
      exact absurd late (by decide)
    | asked _ rank _ => exact absurd rank (Nat.not_lt.2 late)

/-- Along a run in which no closing socket is reopened the queue stays well formed. -/
theorem Orderly.stages (orderly : s.Orderly) {moves : List LinkStep}
    (kept : Without Reopens s moves) : ∀ stage ∈ s.stages moves, stage.Orderly := by
  induction moves generalizing s with
  | nil =>
    intro stage mem
    rw [List.mem_singleton.1 mem]
    exact orderly
  | cons move rest ih =>
    intro stage mem
    rw [stages_cons, List.mem_cons] at mem
    rcases mem with rfl | mem
    · exact orderly
    · exact ih (orderly.step kept.1) kept.2 stage mem

/-- A socket that was asked to close and is open again queues a second request when asked again. -/
theorem not_wellFormed_of_reopened (asked : Outbound.close ∈ s.link.queued)
    (reopened : s.link.mayClose = true) :
    ¬ Outbound.WellFormed (s.step .close).2.link.queued := by
  rw [LinkStage.step, Link.queued_close, if_pos reopened]
  exact Outbound.WellFormed.not_behind_close asked

/-! ## Runs -/

/-- A run in which no move puts the socket back keeps the states in order. -/
theorem rank_le_of_onward {moves : List LinkStep} (onward : Without Reverts s moves) :
    ∀ stage ∈ s.stages moves, s.link.state.rank ≤ stage.link.state.rank := by
  induction moves generalizing s with
  | nil =>
    intro stage mem
    exact Nat.le_of_eq (by rw [List.mem_singleton.1 mem])
  | cons move rest ih =>
    intro stage mem
    rw [stages_cons, List.mem_cons] at mem
    rcases mem with rfl | mem
    · exact Nat.le_refl _
    · have first : s.link.state.rank ≤ (s.step move).2.link.state.rank :=
        Nat.not_lt.1 fun back => onward.1 (reverts_iff.2 back)
      exact Nat.le_trans first (ih onward.2 stage mem)

/-- The states of a run are in order exactly if none of its moves puts the socket back. -/
theorem sorted_iff_onward (s : LinkStage) (moves : List LinkStep) :
    (s.stages moves).Pairwise (fun a b => a.link.state.rank ≤ b.link.state.rank) ↔
      Without Reverts s moves := by
  induction moves generalizing s with
  | nil => exact ⟨fun _ => trivial, fun _ => List.pairwise_singleton _ _⟩
  | cons move rest ih =>
    rw [stages_cons, List.pairwise_cons, ih]
    constructor
    · rintro ⟨le, onward⟩
      refine ⟨fun reverts => ?_, onward⟩
      have back := rank_lt_of_reverts reverts
      exact absurd (le _ List.mem_cons_self) (Nat.not_le.2 back)
    · intro onward
      refine ⟨fun stage mem => ?_, onward.2⟩
      exact rank_le_of_onward onward stage (List.mem_cons_of_mem _ mem)

/-- What has no move of some kind has none of a narrower kind. -/
theorem Without.imp {kind other : LinkStage → LinkStep → Prop}
    (le : ∀ s move, kind s move → other s move) :
    ∀ {moves : List LinkStep} {s : LinkStage}, Without other s moves → Without kind s moves
  | [], _, _ => trivial
  | _ :: _, _, ⟨first, rest⟩ => ⟨fun bad => first (le _ _ bad), rest.imp le⟩

/-- The states of a socket and its queue along a run, whatever state it starts in.

The states are in order exactly if the peer never names an earlier one, and as long as it does not
take a closing socket back, which is less, some texts and at most one final request to close are
queued at every moment. -/
theorem socket_order (state : SocketState) (moves : List LinkStep) :
    (((fresh state).stages moves).Pairwise
        (fun a b => a.link.state.rank ≤ b.link.state.rank) ↔
      Without Reverts (fresh state) moves) ∧
    (Without Reverts (fresh state) moves → Without Reopens (fresh state) moves) ∧
    (Without Reopens (fresh state) moves →
      ∀ stage ∈ (fresh state).stages moves, Outbound.WellFormed stage.link.queued) := by
  refine ⟨sorted_iff_onward _ _, Without.imp fun _ _ reopens => reopens.2, ?_⟩
  intro kept stage mem
  exact ((orderly_fresh state).stages kept stage mem).wellFormed

/-- The peer opens a socket that was asked to close: the socket goes back, and a text and a second
request stand behind the first one. -/
theorem socket_reopened :
    ∃ moves : List LinkStep,
      moves = [.close, .peerState .opened, .send "hello", .close] ∧
      ((fresh .opened).stages moves).map (·.link.state) =
        [.opened, .closing, .opened, .opened, .closing] ∧
      ((fresh .opened).stages moves).map (·.link.queued) =
        [[], [.close], [.close], [.close, .frame "hello"], [.close, .frame "hello", .close]] ∧
      ¬ ((fresh .opened).stages moves).Pairwise
        (fun a b => a.link.state.rank ≤ b.link.state.rank) ∧
      ¬ ∀ stage ∈ (fresh .opened).stages moves, Outbound.WellFormed stage.link.queued := by
  refine ⟨_, rfl, by decide, by decide, by decide, fun wellFormed => ?_⟩
  have last := wellFormed _ (List.mem_of_getElem? (i := 4) rfl)
  have asked : Outbound.close ∈ ([.close, .frame "hello"] : List (Outbound String)) := by decide
  exact Outbound.WellFormed.not_behind_close asked last

end Rehearsal.LinkStage
end LanguageBridge
