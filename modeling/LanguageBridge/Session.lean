import LanguageBridge.Duration
import LanguageBridge.Json.Draft
import LanguageBridge.Link
import LanguageBridge.Message
import LanguageBridge.Server.Capabilities

/-!
# Sessions

A session is one JSON-RPC conversation over one link.  Many requests may wait at the same time.
Each has an id of its own, which is *pending* from the moment it is sent until it is answered or
its caller gives up; the answer is kept until the caller collects it.

A session ends by being disposed of: on purpose, which fails the pending requests as disposed, or
because the server's texts ended, which fails them as closed.  A session that has ended is never
used again.
-/

namespace LanguageBridge

/-- What comes back for a request. -/
abbrev Outcome := Except Failure Json

/-- A conversation with a server. -/
structure Session where
  languageId : String
  requestTimeout : Duration
  /-- The id of the next request. -/
  nextId : Nat
  /-- The ids of requests that were sent and wait for an answer. -/
  pending : List Nat
  /-- Answers that have not been collected. -/
  answers : List (Nat × Outcome)
  disposed : Bool
  capabilities : Server.Capabilities

namespace Session

/-- A session that has not sent anything. -/
def fresh (languageId : String) (requestTimeout : Duration) : Session :=
  ⟨languageId, requestTimeout, 1, [], [], false, .none⟩

/-- Why a session cannot be used, if it cannot. -/
def inspect (s : Session) (socket : SocketState) : Except Failure Unit :=
  if s.disposed then .error .sessionDisposed
  else
    match socket with
    | .closing => .error .connectionClosed
    | .closed => .error .connectionClosed
    | .connecting => .ok ()
    | .opened => .ok ()

/-! ## Sending -/

/-- A message that expects no reply. -/
def notify (s : Session) (l : Link Message) (m : Message) : Except Failure (Link Message) :=
  match s.inspect l.state with
  | .error e => .error e
  | .ok () => l.send m

/-- A request sent, and its id.  A request that cannot be sent uses up its id. -/
def request (s : Session) (l : Link Message) (method : String) (params : Json) :
    Except Failure Nat × Session × Link Message :=
  match s.inspect l.state with
  | .error e => (.error e, s, l)
  | .ok () =>
    let id := s.nextId
    let s := { s with nextId := id + 1 }
    match l.send (.request id method params) with
    | .error e => (.error e, s, l)
    | .ok l => (.ok id, { s with pending := s.pending ++ [id] }, l)

/-! ## Answers -/

/-- An answer to a request; it counts only while the request is pending. -/
def answer (s : Session) (id : Nat) (outcome : Outcome) : Session :=
  if id ∈ s.pending then
    { s with pending := s.pending.filter (· ≠ id), answers := s.answers ++ [(id, outcome)] }
  else s

/-- A request whose caller has given up. -/
def abandon (s : Session) (id : Nat) : Session :=
  { s with
    pending := s.pending.filter (· ≠ id)
    answers := s.answers.filter (·.1 ≠ id) }

/-- The answer to a request, collected by its caller. -/
def collect (s : Session) (id : Nat) : Option Outcome × Session :=
  match s.answers.lookup id with
  | none => (none, s)
  | some outcome => (some outcome, { s with answers := s.answers.filter (·.1 ≠ id) })

/-- All pending requests failed. -/
def failPending (s : Session) (e : Failure) : Session :=
  { s with pending := [], answers := s.answers ++ s.pending.map fun id => (id, .error e) }

/-- The session disposed of on purpose. -/
def dispose (s : Session) : Session :=
  if s.disposed then s else { s with disposed := true }.failPending .sessionDisposed

/-- The session after the texts of the server have ended. -/
def endOfTexts (s : Session) : Session :=
  { s with disposed := true }.failPending .connectionClosed

theorem inspect_eq_ok_iff (s : Session) (socket : SocketState) :
    s.inspect socket = .ok () ↔
      s.disposed = false ∧ (socket = .connecting ∨ socket = .opened) := by
  unfold inspect
  split
  · rename_i h
    simp [h]
  · rename_i h
    cases socket <;> simp [h]

theorem mem_pending_answer (s : Session) (id other : Nat) (outcome : Outcome) :
    other ∈ (s.answer id outcome).pending ↔ other ∈ s.pending ∧ other ≠ id := by
  unfold answer
  split
  · simp
  · rename_i absent
    constructor
    · intro pending
      refine ⟨pending, ?_⟩
      rintro rfl
      exact absent pending
    · exact And.left

theorem mem_pending_abandon (s : Session) (id other : Nat) :
    other ∈ (s.abandon id).pending ↔ other ∈ s.pending ∧ other ≠ id := by
  simp [abandon]

@[simp] theorem disposed_dispose (s : Session) : s.dispose.disposed = true := by
  unfold dispose
  split
  · assumption
  · rfl

theorem pending_dispose {s : Session} (h : s.disposed = false) : s.dispose.pending = [] := by
  simp [dispose, h, failPending]

theorem dispose_dispose (s : Session) : s.dispose.dispose = s.dispose := by
  rw [dispose, if_pos (disposed_dispose s)]

@[simp] theorem disposed_endOfTexts (s : Session) : s.endOfTexts.disposed = true := rfl

@[simp] theorem pending_endOfTexts (s : Session) : s.endOfTexts.pending = [] := rfl

/-! ## Waiting for an answer -/

/-- A call: waiting for the answer to a request until a due time, or over. -/
inductive Call where
  | waiting (id due : Nat)
  | over (outcome : Outcome)

/-- The failure of a call whose caller waited in vain. -/
def giveUp (s : Session) (id : Nat) : Call × Session := (.over (.error .timeout), s.abandon id)

/-- A request sent by a caller who waits for `timeout` at most.  With no time at all the request
is still sent. -/
def call (s : Session) (l : Link Message) (now : Nat) (timeout : Duration) (method : String)
    (params : Json) : Call × Session × Link Message :=
  match s.request l method params with
  | (.error e, s, l) => (.over (.error e), s, l)
  | (.ok id, s, l) =>
    let due := Duration.dueAt now timeout
    if due ≤ now then
      let (call, s) := s.giveUp id
      (call, s, l)
    else (.waiting id due, s, l)

/-- A waiting call looked at again: an answer counts even when the time is up. -/
def resume (s : Session) (now id due : Nat) : Call × Session :=
  match s.collect id with
  | (some outcome, s) => (.over outcome, s)
  | (none, s) => if due ≤ now then s.giveUp id else (.waiting id due, s)

/-! ## The handshake -/

/-- The call that starts the handshake. -/
def greet (s : Session) (l : Link Message) (now : Nat) (timeout : Duration) (process : Nat) :
    Call × Session × Link Message :=
  s.call l now timeout "initialize" (Message.handshakeParams process)

/-- The failure of the handshake when its request has failed. -/
def handshakeFailure : Failure → Failure
  | .timeout => .handshakeFailed "initialize timed out"
  | e => .handshakeFailed e.message

/-- The end of the handshake: the capabilities of the server are recorded, and it is told that the
client is ready. -/
def finishHandshake (s : Session) (l : Link Message) (outcome : Outcome) :
    Except Failure Server.Capabilities × Session × Link Message :=
  match outcome with
  | .error e => (.error (handshakeFailure e), s, l)
  | .ok reply =>
    let capabilities := Server.Capabilities.ofReply reply
    let s := { s with capabilities := capabilities }
    match s.notify l Message.handshakeDone with
    | .error e => (.error e, s, l)
    | .ok l => (.ok capabilities, s, l)

/-! ## Texts of the server -/

/-- What a text of the server is. -/
inductive Incoming where
  /-- The answer to a request of ours. -/
  | reply (id : Int) (outcome : Outcome)
  /-- A request of the server. -/
  | request (id : Json)
  /-- Anything else: a notification, a foreign id, no message at all. -/
  | other

/-- The code of an error reply, in thirty-two bits. -/
def errorCode (error : Json) : Int :=
  Int.bmod (((error.get? "code").bind Json.int64?).getD (-1)) UInt32.size

/-- The outcome that a reply tells: any error member makes it a failure. -/
def outcomeOf (message : Json) : Outcome :=
  match message.get? "error" with
  | some error =>
    .error (.rpc (errorCode error)
      (((error.get? "message").bind Json.text?).getD "Unknown error"))
  | none => .ok ((message.get? "result").getD .null)

/-- What a message of the server is: an id that is not `null` makes it a request if it has a
method, and a reply if it has none. -/
def Incoming.ofJson (message : Json) : Incoming :=
  match (message.get? "id").filter (fun id => !id.isNull),
      (message.get? "method").bind Json.text? with
  | some id, none =>
    match id.int64? with
    | some n => .reply n (outcomeOf message)
    | none => .other
  | some id, some _ => .request id
  | none, _ => .other

/-- What a text of the server is. -/
def Incoming.ofText (text : String) : Incoming :=
  match Json.read? text with
  | some message => .ofJson message
  | none => .other

/-- The pending request that an id of a reply belongs to. -/
def pendingId? (s : Session) (id : Int) : Option Nat := s.pending.find? fun p => (p : Int) = id

/-- What a text of the server changes: a reply answers its request, and a request of the server is
acknowledged if the socket is open. -/
def read (s : Session) (l : Link Message) (text : String) : Session × Link Message :=
  match Incoming.ofText text with
  | .reply id outcome =>
    match s.pendingId? id with
    | some id => (s.answer id outcome, l)
    | none => (s, l)
  | .request id =>
    match l.send (.acknowledgement id) with
    | .ok l => (s, l)
    | .error _ => (s, l)
  | .other => (s, l)

end Session
end LanguageBridge
