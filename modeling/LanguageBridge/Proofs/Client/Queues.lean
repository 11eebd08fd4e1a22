import LanguageBridge.Client.Run
import LanguageBridge.Proofs.Client.Operations
import LanguageBridge.Proofs.Client.Talk
import LanguageBridge.Proofs.Client.Working
import LanguageBridge.Proofs.Session.Routing

/-!
# What is queued beside the requests of the editor

A client queues frames of many kinds for its servers: greetings, settings, texts, acknowledgements.
None of them is a request for a feature or the document that goes before it, which are queued by the
request of the editor itself and by nothing else.  Whatever else a client does, it leaves every
queue as it was and puts such frames behind it at most (`System.Kept`); only a connection that has
just been opened starts with a new queue.

## Main results

* `Message.Plain` says which frames are neither the request for a feature nor the text before it.
* `Connection.Kept` is the relation on one connection, `System.Kept` the one on all of them.
* `System.kept_act` is the step: every action but the run of a request of the editor keeps every
  queue in this sense.

## How the lemmas are laid out

`Kept s t` carries along the state `s` from which the frames are counted, so each lemma extends
`Kept s t` by one function applied to `t`.  That way a proof about a function of the client reads
like its body, one lemma per call, and no frame condition has to be restated in between.
-/

namespace LanguageBridge

open Editor (Feature)

/-- A message that is no request for a feature, and no document either. -/
structure Message.Plain (m : Message) : Prop where
  request : ∀ (id : Nat) (f : Feature) (params : Json), m ≠ .request id f.method params
  document : ∀ uri languageId text, m ≠ .didOpen uri languageId text

namespace Message

/-- A notification is plain unless it opens a document. -/
theorem plain_notification {method : String} (other : method ≠ "textDocument/didOpen")
    (params : Json) : (notification method params).Plain where
  request := nofun
  document := by
    intro uri languageId text same
    injection same with own
    exact other own

/-- An acknowledgement answers the server, so it asks for nothing. -/
theorem plain_acknowledgement (id : Json) : (acknowledgement id).Plain := ⟨nofun, nofun⟩

/-- Nor is the request that greets a server. -/
theorem plain_initialize (id : Nat) (params : Json) :
    (request id "initialize" params).Plain where
  request := by
    intro _ f _ same
    injection same with _ method
    cases f <;> exact absurd method (by decide)
  document := nofun

end Message

namespace Session

/-- A call whose request goes out sends nothing else. -/
theorem sent_of_accepted {s s' sent : Session} {l l' link : Link Message} {now : Nat}
    {timeout : Duration} {method : String} {params : Json} {answer : Call}
    (out : l.send (.request s.nextId method params) = .ok link)
    (accepted : s.request l method params = (.ok s.nextId, sent, link))
    (called : s.call l now timeout method params = (answer, s', l')) :
    l.send (.request s.nextId method params) = .ok l' ∧
      ((∃ e, answer = .over (.error e)) ∨ ∃ due, answer = .waiting s.nextId due) := by
  rcases call_of_sent accepted now timeout with late | ⟨due, waits⟩
  · cases late.symm.trans called
    exact ⟨out, .inl ⟨_, rfl⟩⟩
  · cases waits.symm.trans called
    exact ⟨out, .inr ⟨due, rfl⟩⟩

/-- A call sends its request and nothing else, or it fails and sends nothing. -/
theorem sent_of_call {s s' : Session} {l l' : Link Message} {now : Nat} {timeout : Duration}
    {method : String} {params : Json} {answer : Call}
    (called : s.call l now timeout method params = (answer, s', l')) :
    (l' = l ∧ ∃ e, answer = .over (.error e)) ∨
      l.send (.request s.nextId method params) = .ok l' ∧
        ((∃ e, answer = .over (.error e)) ∨ ∃ due, answer = .waiting s.nextId due) := by
  rcases s.request_cases l method params with
    ⟨e, n, -, refused⟩ | ⟨link, -, sent, accepted⟩
  · cases (call_of_refused refused now timeout).symm.trans called
    exact .inl ⟨rfl, _, rfl⟩
  · exact .inr (sent_of_accepted sent accepted called)

/-- Right behind a message that has been sent, a request goes out as well. -/
theorem sent_of_notify {s s' : Session} {l l' l'' : Link Message} {m : Message} {now : Nat}
    {timeout : Duration} {method : String} {params : Json} {answer : Call}
    (told : s.notify l m = .ok l')
    (called : s.call l' now timeout method params = (answer, s', l'')) :
    l'.send (.request s.nextId method params) = .ok l'' ∧
      ((∃ e, answer = .over (.error e)) ∨ ∃ due, answer = .waiting s.nextId due) := by
  have accepted : (s.request l' method params).1 = .ok s.nextId := by
    unfold notify at told
    split at told
    · cases told
    · rename_i usable
      obtain ⟨opened, peer, rfl⟩ := Link.send_eq_ok_iff.1 told
      have out : Link.send { l with queued := l.queued ++ [.frame m] }
          (.request s.nextId method params) = .ok _ := Link.send_eq_ok_iff.2 ⟨opened, peer, rfl⟩
      unfold request
      simp only [usable, out]
  rcases s.request_cases l' method params with ⟨e, n, -, refused⟩ | ⟨link, -, sent, accepted'⟩
  · rw [refused] at accepted
    cases accepted
  · exact sent_of_accepted sent accepted' called

/-- Whoever reads texts sends nothing but acknowledgements. -/
theorem acknowledged_of_read (texts : List String) (s : Session) (l : Link Message) :
    ∃ more, (texts.foldl (fun (p : Session × Link Message) text => p.1.read p.2 text)
      (s, l)).2.queued = l.queued ++ more ∧ ∀ m, .frame m ∈ more → m.Plain := by
  induction texts generalizing s l with
  | nil => exact ⟨[], (List.append_nil _).symm, nofun⟩
  | cons text rest ih =>
      obtain ⟨more, queued, plain⟩ := ih (s.read l text).1 (s.read l text).2
      have own : (s.read l text).2 = l ∨
          ∃ id, (s.read l text).2.queued = l.queued ++ [.frame (.acknowledgement id)] := by
        unfold read
        split
        · split <;> exact .inl rfl
        · split
          · rename_i sent
            exact .inr ⟨_, congrArg Link.queued (Link.send_eq sent)⟩
          · exact .inl rfl
        · exact .inl rfl
      rcases own with same | ⟨id, added⟩
      · exact ⟨more, queued.trans (by rw [same]), plain⟩
      · refine ⟨.frame (.acknowledgement id) :: more, queued.trans ?_, fun m mem => ?_⟩
        · rw [added, List.append_assoc]
          rfl
        · rcases List.mem_cons.1 mem with own | mem
          · cases own
            exact Message.plain_acknowledgement id
          · exact plain m mem

end Session

namespace Client

namespace Connection

/-- A connection with the same queue as before, behind which no request for a feature and no
document has been put, or with a new queue without any. -/
def Kept (k k' : Connection) : Prop :=
  ∃ start more, k'.link.queued = start ++ more ∧ (start = k.link.queued ∨ start = []) ∧
    ∀ m, .frame m ∈ more → m.Plain

namespace Kept

variable {k k' k'' : Connection}

/-- A connection that is left alone keeps its queue. -/
@[refl] theorem refl (k : Connection) : Kept k k :=
  ⟨k.link.queued, [], (List.append_nil _).symm, .inl rfl, nofun⟩

/-- What has been put behind a queue stays there, so the relation composes. -/
theorem trans (first : Kept k k') (second : Kept k' k'') : Kept k k'' := by
  obtain ⟨start, more, queued, kept, plain⟩ := first
  obtain ⟨start', more', queued', kept', plain'⟩ := second
  rcases kept' with rfl | rfl
  · refine ⟨start, more ++ more', ?_, kept, fun m mem => ?_⟩
    · rw [queued', queued, List.append_assoc]
    · exact (List.mem_append.1 mem).elim (plain m) (plain' m)
  · exact ⟨[], more', queued', .inr rfl, plain'⟩

/-- Nothing queued at all is the least that can be added. -/
theorem of_eq (queued : k'.link.queued = k.link.queued) : Kept k k' :=
  ⟨k.link.queued, [], queued.trans (List.append_nil _).symm, .inl rfl, nofun⟩

theorem of_calm (calm : Calm k k') : Kept k k' := by
  obtain ⟨more, queued⟩ := calm.queued
  refine ⟨k.link.queued, more, queued.symm, .inl rfl, fun m mem => ?_⟩
  exact absurd mem (Link.not_frame_of_frames_eq queued.symm calm.frames m)

/-- A plain message that is sent. -/
theorem of_send {session : Session} {link : Link Message} {m : Message} (plain : m.Plain)
    (sent : k.link.send m = .ok link) : Kept k { k with session, link } := by
  refine ⟨k.link.queued, [.frame m], ?_, .inl rfl, fun m' mem => ?_⟩
  · exact congrArg Link.queued (Link.send_eq sent)
  · cases List.mem_singleton.1 mem
    exact plain

/-- The connector opens a connection with a fresh link: this is the one way in which a queue
starts anew. -/
theorem opened (k : Connection) (state : SocketState) : Kept k (k.opened state) :=
  ⟨[], [], rfl, .inr rfl, nofun⟩

end Kept
end Connection

namespace System

variable {s t u : System}

/-- A system whose queues have all been kept. -/
def Kept (s t : System) : Prop := ∀ c, (s.connection c).Kept (t.connection c)

namespace Kept

/-- A system that does nothing keeps all its queues. -/
@[refl] theorem refl (s : System) : Kept s s := fun _ => .refl _

/-- Whatever changes beside the connections. -/
theorem same (kept : Kept s t) (connections : u.connections = t.connections) : Kept s u := by
  intro c
  have own : u.connection c = t.connection c := by rw [connection, connections, ← connection]
  rw [own]
  exact kept c

/-- The relation looks at nothing but the connections. -/
theorem of_connections (connections : t.connections = s.connections) : Kept s t :=
  (refl s).same connections

theorem calm (kept : Kept s t) (calm : Calm t u) : Kept s u :=
  fun c => (kept c).trans (.of_calm (calm.connection c))

/-- One connection changes and keeps its own queue; all others are as before. -/
theorem update (kept : Kept s t) (c : Nat) {f : Connection → Connection}
    (own : (t.connection c).Kept (f (t.connection c))) : Kept s (t.update c f) := by
  intro d
  rw [connection_update_eq]
  split
  · rename_i same
    rw [same.1]
    exact (kept c).trans own
  · exact kept d

/-- The form in which most functions change a connection: its session and its link move on
together. -/
theorem exchange (kept : Kept s t) (c : Nat) {session : Session} {link : Link Message}
    (own : (t.connection c).Kept { t.connection c with session, link }) :
    Kept s (t.exchange c session link) := by
  unfold System.exchange
  simp only []
  split
  · exact (kept.update c own).calm (.wake _ _)
  · exact kept.update c own

/-! ## Stopping and reconnecting

What is stopped sends no frame.  A session that is disposed of tells its callers and not its peer,
and a socket that is closed queues a request to close, which stands behind all frames. -/

theorem cancelRetry (kept : Kept s t) : Kept s t.cancelRetry := by
  unfold System.cancelRetry stopPause
  split <;> exact kept.same rfl

theorem stopChecks (kept : Kept s t) : Kept s t.stopChecks := by
  unfold System.stopChecks
  split
  · exact kept
  · exact kept.same rfl

/-- An attempt that ends abandons its greeting, which stays in the queue. -/
theorem endAttempt (kept : Kept s t) (generation : Nat) : Kept s (t.endAttempt generation) := by
  unfold System.endAttempt
  split
  · exact kept
  · refine Kept.calm ?_ (.leave _ _)
    exact kept.same rfl

theorem stopAttempt (kept : Kept s t) : Kept s t.stopAttempt := by
  unfold System.stopAttempt
  split
  · exact kept
  · exact (kept.endAttempt _).same rfl

/-- Closing the socket queues the request to close, which is no frame. -/
theorem giveUp (kept : Kept s t) : Kept s t.giveUp := by
  refine Kept.calm (Kept.calm ?_ (.disposeAny _ t.state.current)) (.closeAny _ t.state.socket)
  exact kept.same rfl

theorem armRetry (kept : Kept s t) (how : Retry → Retry.Armed × Retry) :
    Kept s (t.armRetry how) := by
  unfold System.armRetry stopPause
  split <;> exact kept.same rfl

theorem reconnectSoon (kept : Kept s t) : Kept s t.reconnectSoon := by
  unfold System.reconnectSoon
  split
  · exact kept
  · exact kept.armRetry _

/-- The loss of a connection queues nothing: it disposes of the session and arms a retry. -/
theorem lost (kept : Kept s t) (generation : Nat) : Kept s (t.lost generation) := by
  have cleared : Kept s { t with state := { t.state with current := none, socket := none } } :=
    kept.same rfl
  have idle := cleared.stopChecks
  unfold System.lost
  split
  · exact kept
  · refine Kept.calm ?_ (.disposeAny _ t.state.current)
    split
    · exact idle
    · exact idle.armRetry _

/-- A new connection is only asked for; nothing can be queued on it yet. -/
theorem connect (kept : Kept s t) (endpoint : String) : Kept s (t.connect endpoint) := by
  have renamed : Kept s { t with state := { t.state with
      generation := t.state.generation + 1, endpoint := some endpoint } } := kept.same rfl
  unfold System.connect
  split
  · exact kept
  · exact renamed.cancelRetry.stopAttempt.stopChecks.giveUp.same rfl

theorem setEndpoint (kept : Kept s t) (endpoint : String) : Kept s (t.setEndpoint endpoint) := by
  unfold System.setEndpoint
  split
  · exact kept
  · refine Kept.connect (Kept.calm ?_ (.disposeAny _ t.state.current)) endpoint
    exact kept.cancelRetry.same rfl

/-- The last thing a client queues is the request to close. -/
theorem destroy (kept : Kept s t) : Kept s t.destroy := by
  have ended : Kept s { t with state := { t.state with
      destroyed := true, generation := t.state.generation + 1, observer := none } } :=
    kept.same rfl
  unfold System.destroy
  split
  · exact kept
  · refine Kept.giveUp ?_
    exact ended.cancelRetry.stopAttempt.stopChecks.same rfl

theorem release (kept : Kept s t) : Kept s t.release := by
  unfold System.release
  split
  · exact kept
  · exact kept.cancelRetry.stopChecks.same rfl

theorem recover (kept : Kept s t) (c : Nat) : Kept s (t.recover c) := by
  unfold System.recover
  split
  · split
    · refine Kept.reconnectSoon (Kept.calm ?_ (.dispose _ c))
      exact kept.same rfl
    · exact kept
  · split
    · exact kept.reconnectSoon
    · exact kept

/-! ## Validity checks, pauses and health checks

These lead to recovery at most.  The one message that goes out here are new settings, and they are
no request for a feature. -/

/-- The reaction to a failure sends nothing on the connection that failed. -/
theorem requestFailed (kept : Kept s t) (c : Nat) (e : Failure) : Kept s (t.requestFailed c e) := by
  unfold System.requestFailed
  split
  · exact kept.recover c
  · exact kept

theorem validSession (kept : Kept s t) : Kept s t.validSession.2 := by
  unfold System.validSession
  split
  · exact kept
  · split
    · exact kept
    · exact kept.recover _

theorem isConnected (kept : Kept s t) : Kept s t.isConnected.2 := by
  have checked := kept.validSession
  unfold System.isConnected
  split
  · rename_i valid
    rwa [valid] at checked
  · rename_i valid
    rwa [valid] at checked

theorem checkHealth (kept : Kept s t) : Kept s t.checkHealth := by
  have checked := kept.validSession
  unfold System.checkHealth
  split
  · rename_i valid
    rwa [valid] at checked
  · rename_i valid
    rw [valid] at checked
    split
    · exact checked
    · exact checked.reconnectSoon

theorem notify (kept : Kept s t) (c : Nat) {m : Message} (plain : m.Plain) :
    Kept s (t.notify c m).2 := by
  unfold System.notify
  simp only []
  split
  · exact kept.requestFailed c _
  · rename_i sent
    exact kept.exchange c (.of_send plain (Session.notify_eq sent))

theorem updateSettings (kept : Kept s t) (settings : Json) :
    Kept s (t.updateSettings settings).2 := by
  have checked := kept.validSession
  unfold System.updateSettings
  split
  · exact kept
  · split
    · rename_i valid
      rwa [valid] at checked
    · rename_i valid
      rw [valid] at checked
      exact checked.notify _ (Message.plain_notification (by decide) _)

/-- A pause that is over may connect, which touches no queue. -/
theorem endPause (kept : Kept s t) (token : Nat) : Kept s (t.endPause token) := by
  unfold System.endPause
  simp only []
  split
  · exact kept.same rfl
  · split
    · exact kept.same rfl
    · split
      · exact kept.same rfl
      · refine Kept.connect ?_ _
        exact kept.same rfl

theorem runPause (kept : Kept s t) (token : Nat) : Kept s (t.runPause token) := by
  unfold System.runPause
  split
  · exact kept
  · split
    · split
      · exact kept.endPause token
      · exact kept
    · simp only []
      split
      · exact kept.endPause token
      · exact kept.same rfl

theorem runChecks (kept : Kept s t) (id : Nat) : Kept s (t.runChecks id) := by
  unfold System.runChecks
  split
  · exact kept
  · split
    · exact kept.same rfl
    · split
      · exact kept
      · split
        · exact kept.same rfl
        · exact kept.checkHealth.same rfl

/-! ## Attempts

An attempt sends the two messages of its handshake.  They are plain, and they are the first frames
on a queue that has just come into being. -/

theorem finishAttempt (kept : Kept s t) (generation : Nat) :
    Kept s (t.finishAttempt generation) := by
  unfold System.finishAttempt
  refine Kept.endAttempt ?_ generation
  split
  · exact kept.lost generation
  · exact kept

theorem install (kept : Kept s t) (generation c : Nat) : Kept s (t.install generation c) := by
  have cleared : Kept s { t.cancelRetry.resetAttempts with
      state := { t.cancelRetry.resetAttempts.state with
        current := some c, installed := some ⟨c, generation⟩ } } :=
    kept.cancelRetry.same rfl
  exact cleared.stopChecks.same rfl

/-- A handshake queues that the client is ready, and closes the socket if it fails. -/
theorem finishHandshake (kept : Kept s t) (generation c : Nat) (outcome : Outcome) :
    Kept s (t.finishHandshake generation c outcome) := by
  rcases finished : (t.connection c).session.finishHandshake (t.connection c).link outcome
    with ⟨result, session, link⟩
  have spoke : Kept s ((t.disarm (.attempt generation)).exchange c session link) := by
    refine Kept.exchange (kept.calm (.disarm t _)) c ?_
    show (t.connection c).Kept { t.connection c with session, link }
    unfold Session.finishHandshake at finished
    split at finished
    · cases finished
      exact .of_eq rfl
    · simp only [] at finished
      split at finished
      · cases finished
        exact .of_eq rfl
      · rename_i told
        cases finished
        exact .of_send (Message.plain_notification (by decide) _) (Session.notify_eq told)
  have closed := (spoke.calm (.dispose _ c)).calm (.closeSocket _ c)
  unfold System.finishHandshake
  simp only []
  rw [show (t.disarm (.attempt generation)).connection c = t.connection c from rfl, finished]
  cases result with
  | ok capabilities =>
      simp only []
      split
      · exact spoke.install generation c
      · exact closed.endAttempt generation
  | error e => exact closed.finishAttempt generation

/-- A session starts with its greeting, which is the first frame on its connection. -/
theorem startSession (kept : Kept s t) (generation c : Nat) :
    Kept s (t.startSession generation c) := by
  obtain ⟨call, session, link, greeted, begun⟩ := startSession_eq t generation c
  have opened : Kept s (t.opening c) := by
    refine Kept.same (Kept.update (t := { t with sessions := t.sessions + 1 }) (kept.same rfl) c
      (f := fun k => k.started (t.sessions + 1) (.fresh t.state.options.languageId
        t.state.options.requestTimeout)) ?_) rfl
    exact .of_eq rfl
  have spoke : Kept s ((t.opening c).exchange c session link) := by
    refine opened.exchange c ?_
    rcases Session.sent_of_call greeted with ⟨same, -⟩ | ⟨sent, -⟩
    · exact .of_eq (congrArg Link.queued same)
    · exact .of_send (Message.plain_initialize _ _) sent
  rw [begun]
  cases call with
  | «over» outcome => exact spoke.finishHandshake generation c outcome
  | waiting id due => exact spoke.same rfl

theorem connectorFailed (kept : Kept s t) (generation : Nat) :
    Kept s (t.connectorFailed generation) := by
  unfold System.connectorFailed
  split
  · exact kept
  · exact kept.finishAttempt generation

/-- A connection that has been opened is told nothing but the greeting or the request to close. -/
theorem connectorOpened (kept : Kept s t) (generation : Nat) (state : SocketState) :
    Kept s (t.connectorOpened generation state) := by
  unfold System.connectorOpened
  split
  · exact kept
  · rename_i c _
    have opened : Kept s (t.update c fun k => k.opened state) := kept.update c (.opened _ state)
    simp only []
    split
    · refine Kept.startSession ?_ generation c
      exact opened.same rfl
    · refine Kept.endAttempt (Kept.update (opened.calm (.closeSocket _ c)) c ?_) generation
      exact .of_eq rfl

theorem runAttempt (kept : Kept s t) (generation : Nat) : Kept s (t.runAttempt generation) := by
  unfold System.runAttempt
  split
  · exact kept
  · rename_i a _
    split
    · -- The connector is asked for one connection more, which has nothing queued.
      intro d
      show (s.connection d).Kept (({ t with
        connections := t.connections ++ [.called a.endpoint t.now] } : System).connection d)
      rw [connection_append]
      split
      · exact ⟨[], [], rfl, .inr rfl, nofun⟩
      · exact kept d
    · exact kept
    · rename_i c id due _
      have looked : Kept s (t.update c fun k =>
          { k with session := ((t.connection c).session.resume t.now id due).2 }) :=
        kept.update c (.of_eq rfl)
      simp only []
      unfold greeted
      split
      · exact looked.finishHandshake generation c _
      · exact looked.same rfl
    · split
      · exact kept.finishAttempt generation
      · exact kept

/-! ## Readers and peers

A reader queues acknowledgements and nothing else; a peer takes from the other end of the queue. -/

/-- Reading the texts of a server may queue acknowledgements. -/
theorem runReader (kept : Kept s t) (c : Nat) : Kept s (t.runReader c) := by
  unfold System.runReader
  simp only []
  split
  · exact kept
  · have read := Session.acknowledged_of_read (t.connection c).link.inbound
      (t.connection c).session { (t.connection c).link with inbound := [] }
    revert read
    generalize List.foldl _ _ (t.connection c).link.inbound = read
    obtain ⟨session, link⟩ := read
    rintro ⟨more, queued, plain⟩
    have answered : Kept s (t.exchange c session link) :=
      kept.exchange c ⟨(t.connection c).link.queued, more, queued, .inl rfl, plain⟩
    simp only []
    split
    · exact answered.calm (.wakeAll _ _)
    · refine Kept.calm (Kept.exchange (answered.calm (.wakeAll _ _)) c ?_) (.wakeAll _ _)
      rw [connection_wakeAll, connection_exchange]
      split
      · exact .of_eq rfl
      · exact ⟨(t.connection c).link.queued, more, queued, .inl rfl, plain⟩

theorem peerState (kept : Kept s t) (c : Nat) (next : SocketState) :
    Kept s (t.peerState c next) := by
  obtain ⟨agenda, connections, moved, -, same⟩ := peerState_eq t c next
  rw [moved]
  exact fun d => (kept d).trans (.of_eq (same d).queued)

/-! ## The end of a request

What a request ends with goes to whoever asked.  Recovery may follow, which was dealt with before. -/

/-- An answer to the editor is no frame for the server. -/
theorem deliver (kept : Kept s t) (origin : Origin) (answer : Editor.Answer) :
    Kept s (t.deliver origin answer) := by
  unfold System.deliver
  split
  · exact kept.same rfl
  · exact kept.same rfl
  · exact kept.same rfl
  · exact kept

theorem finishRequest (kept : Kept s t) (r : Request) (answer : Editor.Answer) :
    Kept s (t.finishRequest r answer) := by
  refine Kept.release (Kept.deliver ?_ _ _)
  exact kept.same rfl

/-- The outcome of a request decides about recovery, not about frames. -/
theorem conclude (kept : Kept s t) (r : Request) (c : Nat) (lines : UInt32) (outcome : Outcome) :
    Kept s (t.conclude r c lines outcome).2 := by
  unfold System.conclude
  split
  · exact kept.requestFailed c _
  · split
    · exact kept.requestFailed c _
    · unfold observe
      split
      · exact kept
      · exact kept.same rfl
      · exact kept.same rfl
    · exact kept

/-- A request that is over leaves the queues alone, whatever it is answered with. -/
theorem settleRequest (kept : Kept s t) (r : Request) (c : Nat) (lines : UInt32)
    (outcome : Outcome) : Kept s (t.settleRequest r c lines outcome) :=
  (kept.conclude r c lines outcome).finishRequest r _

end Kept

/-! ## Actions

The only action left out is a request of the editor that runs, since it is the one that puts a
document and a request for a feature on a queue. -/

/-- Whatever happens, beside a request of the editor that runs, keeps every queue. -/
theorem kept_act (s : System) {a : Action} (other : ∀ number, a ≠ .run (.request number)) :
    Kept s (s.act a) := by
  have kept : Kept s s := .refl s
  cases a with
  | connect endpoint => exact kept.connect endpoint
  | setEndpoint endpoint => exact kept.setEndpoint endpoint
  | destroy => exact kept.destroy
  | checkConnected => exact kept.isConnected
  | updateSettings settings => exact kept.updateSettings settings
  | setPreamble preamble => exact kept.same rfl
  | setSnippets snippets => exact kept.same rfl
  | setObserver observer => exact kept.same rfl
  | ask origin feature target text place => exact kept.same rfl
  | disown =>
      refine Kept.release ?_
      exact kept.same rfl
  | run job =>
      cases job with
      | attempt generation => exact kept.runAttempt generation
      | reader c => exact kept.runReader c
      | pause token => exact kept.runPause token
      | checks id => exact kept.runChecks id
      | request number => exact absurd rfl (other number)
      | peer c => exact kept
      | parcel number => exact kept
  | wait ms => exact kept.same rfl
  | connectorFailed generation => exact kept.connectorFailed generation
  | connectorOpened generation state => exact kept.connectorOpened generation state
  | peerState c next => exact kept.peerState c next
  | peerFeed c text => exact kept.calm (.peerFeed s c text)
  | peerEndFeed c => exact kept.calm (.peerEndFeed s c)
  | peerGone c => exact kept.calm (.peerGone s c)
  | peerTake c => exact kept.calm (.peerTake s c)

end System
end Client
end LanguageBridge
