import LanguageBridge.Proofs.Session.Routing
import Mathlib.Tactic.Push

/-!
# Replies that come, and what is said

A session learns of a reply only by reading a text in which it stands.  Sending, waiting and giving
up bring none, and neither does the end of a handshake.  And whoever reads says nothing of the
client's own accord: what is sent then only acknowledges what the server has asked for.

What is known about the server are its capabilities.  They are taken from the reply to the handshake
and from nothing else, which `Session.Informed` says of one stretch at a time: the session is over
at its end, or it knows what it knew before, or there was news, and what it knows is what the news
say.
-/

namespace LanguageBridge

namespace Message

/-- Whether a message is sent of the client's own accord, and not because the server has asked. -/
def isOwn : Message → Bool
  | request _ _ _ => true
  | notification _ _ => true
  | acknowledgement _ => false

end Message

namespace Session

/-- No reply comes by sending a request. -/
theorem Replied.of_call {s s' : Session} {l l' : Link Message} {now : Nat}
    {timeout : Duration} {method : String} {params : Json} {answer : Call} {id : Nat}
    {reply : Json} (called : s.call l now timeout method params = (answer, s', l'))
    (replied : s'.Replied id reply) : s.Replied id reply := by
  rcases s.request_cases l method params with ⟨e, n, -, refused⟩ | ⟨link, -, -, accepted⟩
  · cases (call_of_refused refused now timeout).symm.trans called
    exact replied
  · rcases call_of_sent accepted now timeout with late | ⟨due, waits⟩
    · cases late.symm.trans called
      exact replied.of_abandon
    · cases waits.symm.trans called
      exact replied

/-- Whoever stops waiting with a reply finds it among those that have come. -/
theorem replied_of_resume {s s' : Session} {now id due : Nat} {reply : Json}
    (resumed : s.resume now id due = (.over (.ok reply), s')) : s.Replied id reply := by
  unfold resume collect at resumed
  cases found : s.answers.lookup id with
  | none =>
      simp only [found] at resumed
      split at resumed
      · cases resumed
      · cases resumed
  | some outcome =>
      simp only [found] at resumed
      cases resumed
      obtain ⟨front, back, same, -⟩ := List.lookup_eq_some_iff.1 found
      rw [Replied, same]
      exact List.mem_append_right _ List.mem_cons_self

/-- A handshake that ends has failed and nothing is sent, or the server is told, and its reply tells
what it offers.  No reply comes by it. -/
theorem finishHandshake_cases (s : Session) (l : Link Message) (outcome : Outcome) :
    (∃ e s', s.finishHandshake l outcome = (.error e, s', l) ∧
      ∀ id reply, s'.Replied id reply → s.Replied id reply) ∨
    ∃ reply capabilities s' l', outcome = .ok reply ∧ l.send Message.handshakeDone = .ok l' ∧
      s.finishHandshake l outcome = (.ok capabilities, s', l') ∧
      s'.capabilities = .ofReply reply ∧ ∀ id reply, s'.Replied id reply → s.Replied id reply := by
  unfold finishHandshake
  cases outcome with
  | error e => exact .inl ⟨_, s, rfl, fun _ _ => id⟩
  | ok reply =>
      simp only []
      split
      · exact .inl ⟨_, _, rfl, fun _ _ => id⟩
      · rename_i told
        exact .inr ⟨reply, _, _, _, rfl, notify_eq told, rfl, rfl, fun _ _ => id⟩

/-! ## Texts that are read -/

/-- A text that is read makes nobody say anything but an acknowledgement. -/
theorem read_says (s : Session) (l : Link Message) (text : String) :
    (s.read l text).2.frames.filter Message.isOwn = l.frames.filter Message.isOwn := by
  unfold read
  split
  · split <;> rfl
  · split
    · rename_i sent
      rw [Link.send_eq sent]
      simp [Link.frames, Outbound.frame?, Message.isOwn]
    · rfl
  · rfl

theorem reads_say (texts : List String) (s : Session) (l : Link Message) :
    (texts.foldl (fun (p : Session × Link Message) text => p.1.read p.2 text) (s, l)).2.frames.filter
      Message.isOwn = l.frames.filter Message.isOwn := by
  induction texts generalizing s l with
  | nil => rfl
  | cons text rest ih => exact (ih (s.read l text).1 (s.read l text).2).trans (s.read_says l text)

/-- A text that answers a pending request stores the answer behind those that there are; any other
text leaves the answers and the requests alone. -/
theorem read_cases (s : Session) (l : Link Message) (text : String) :
    (s.read l text).1 = s ∨ ∃ id outcome, Answers text id outcome ∧ id ∈ s.pending ∧
      (s.read l text).1 = { s with
        pending := s.pending.filter (· ≠ id), answers := s.answers ++ [(id, outcome)] } := by
  by_cases foreign : ∀ id outcome, Answers text id outcome → id ∉ s.pending
  · exact .inl (read_of_foreign foreign)
  · push Not at foreign
    obtain ⟨id, outcome, answers, pending⟩ := foreign
    exact .inr ⟨id, outcome, answers, pending, congrArg Prod.fst (read_of_answers answers pending)⟩

/-- A reply comes to a pending request, by the first text that answers it. -/
theorem replied_reads (texts : List String) (s : Session) (l : Link Message) {id : Nat}
    {reply : Json} (replied : (texts.foldl (fun (p : Session × Link Message) text =>
      p.1.read p.2 text) (s, l)).1.Replied id reply) :
    s.Replied id reply ∨ id ∈ s.pending ∧ ∃ front text back, texts = front ++ text :: back ∧
      (∀ earlier ∈ front, ∀ outcome, ¬Answers earlier id outcome) ∧
      Answers text id (.ok reply) := by
  induction texts generalizing s l with
  | nil => exact .inl replied
  | cons text rest ih =>
      have read := s.read_cases l text
      rcases ih (s.read l text).1 (s.read l text).2 replied with
        before | ⟨pending, front, later, back, rfl, first, answers⟩
      · rcases read with same | ⟨answered, outcome, answers, pending, same⟩ <;> rw [same] at before
        · exact .inl before
        · rcases List.mem_append.1 before with before | own
          · exact .inl before
          · cases List.mem_singleton.1 own
            exact .inr ⟨pending, [], text, rest, rfl, nofun, answers⟩
      · -- A request that is pending afterwards was not answered by the first text.
        have waiting : id ∈ s.pending := by
          rcases read with same | ⟨answered, outcome, -, -, same⟩ <;> rw [same] at pending
          · exact pending
          · exact (List.mem_filter.1 pending).1
        refine .inr ⟨waiting, text :: front, later, back, rfl, ?_, answers⟩
        intro earlier mem outcome told
        rcases List.mem_cons.1 mem with rfl | mem
        · rw [read_of_answers told waiting] at pending
          simp at pending
        · exact first earlier mem outcome told

/-! ## What is known about the server -/

/-- A session that can be used knows nothing about its server, or what was known before, or what one
of some replies has told. -/
def Informed (news : Json → Prop) (s s' : Session) : Prop :=
  s'.disposed = false → s'.capabilities = .none ∨
    (s.disposed = false ∧ s'.capabilities = s.capabilities) ∨
    ∃ reply, news reply ∧ s'.capabilities = .ofReply reply

namespace Informed

variable {news : Json → Prop} {s s' s'' : Session}

theorem of_same (disposed : s'.disposed = s.disposed)
    (capabilities : s'.capabilities = s.capabilities) : Informed news s s' :=
  fun usable => .inr (.inl ⟨disposed ▸ usable, capabilities⟩)

@[refl] theorem refl (s : Session) : Informed news s s := of_same rfl rfl

theorem of_ended (ended : s'.disposed = true) : Informed news s s' :=
  fun usable => nomatch ended.symm.trans usable

theorem mono {more : Json → Prop} (informed : Informed news s s')
    (sub : ∀ reply, news reply → more reply) : Informed more s s' := by
  intro usable
  rcases informed usable with none | same | ⟨reply, told, own⟩
  · exact .inl none
  · exact .inr (.inl same)
  · exact .inr (.inr ⟨reply, sub reply told, own⟩)

/-- What is learned in one of two stretches is learned in both together. -/
theorem trans (first : Informed news s s') (second : Informed news s' s'') :
    Informed news s s'' := by
  intro usable
  rcases second usable with none | ⟨before, same⟩ | told
  · exact .inl none
  · rw [same]
    exact first before
  · exact .inr (.inr told)

/-- Nobody learns anything by sending a request. -/
theorem of_call {l l' : Link Message} {now : Nat} {timeout : Duration} {method : String}
    {params : Json} {answer : Call} (called : s.call l now timeout method params = (answer, s', l')) :
    Informed news s s' := by
  rcases s.request_cases l method params with ⟨e, n, -, refused⟩ | ⟨link, -, -, accepted⟩
  · cases (call_of_refused refused now timeout).symm.trans called
    exact of_same rfl rfl
  · rcases call_of_sent accepted now timeout with late | ⟨due, waits⟩
    · cases late.symm.trans called
      exact of_same rfl rfl
    · cases waits.symm.trans called
      exact of_same rfl rfl

/-- Nor by reading. -/
theorem reads (texts : List String) (s : Session) (l : Link Message) :
    Informed news s
      (texts.foldl (fun (p : Session × Link Message) text => p.1.read p.2 text) (s, l)).1 := by
  induction texts generalizing s l with
  | nil => exact .refl s
  | cons text rest ih =>
      refine trans ?_ (ih (s.read l text).1 (s.read l text).2)
      rcases s.read_cases l text with same | ⟨id, outcome, -, -, same⟩ <;> rw [same]
      exact of_same rfl rfl

end Informed

end Session
end LanguageBridge
