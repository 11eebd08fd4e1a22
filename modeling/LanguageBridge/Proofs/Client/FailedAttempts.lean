import LanguageBridge.Proofs.Client.Attention
import LanguageBridge.Proofs.Client.Failures
import LanguageBridge.Proofs.Client.Generations

/-!
# However an attempt fails

A connection attempt can fail in many places: the connector refuses, the server cannot be greeted,
rejects the greeting, does not answer in time or goes away, or it cannot be told that the handshake
is over.  By then there is nothing yet, or a socket, or a session on it, or the capabilities of the
server have been recorded, and each place cleans up in its own way.

## Main result

`System.Fails` lists these ways, each with the actions that bring it about, and all of them leave
the same behind (`failures_agree`).  `System.Failed` says what that is: every session is
over, a socket on which one was started is closing or closed, nothing runs any more but one pause
before the retry that comes next, and the count is one higher.  The providers are left as they are.

## How the proof goes

None of these ways has to be followed through the operations.  Each comes down to a *failure* in the
sense of `System.bearing`, and of all moves of a client with an attempt under way only one spends a
token of the retry slot, which is the end of the attempt (`Move.failed`).  What has to be shown for
a way is only that the client learns of it: `Doomed` says that the outcome of a greeting is an
error, whether it was rejected (`doomed_of_rejected`), the connection has ended (`doomed_of_ended`),
or its time is up (`Doomed.of_late`).

Between the failure and the moment at which the attempt notices it, other things may happen outside
the client.  `Pursued` collects what lasts through them.
-/

namespace LanguageBridge

namespace Session

variable {s : Session} {text : String} {id : Nat} {outcome : Outcome}

/-- A request that has been sent and not been answered. -/
def Awaits (s : Session) (id : Nat) : Prop := id ∈ s.pending ∧ s.answers.lookup id = none

/-- Whoever waits goes on waiting when a text is read that does not answer it. -/
theorem Awaits.read (awaits : s.Awaits id) (l : Link Message)
    (other : ∀ outcome, ¬Answers text id outcome) : (s.read l text).1.Awaits id := by
  rcases s.read_cases l text with same | ⟨answered, outcome, answers, -, same⟩
  · rwa [same]
  · have apart : id ≠ answered := by
      rintro rfl
      exact other outcome answers
    rw [same]
    exact ⟨by simp [awaits.1, apart], by simp [List.lookup_append, awaits.2, List.lookup_cons,
      beq_false_of_ne apart]⟩

/-- An answer that is stored is not replaced by a later one. -/
theorem lookup_read (found : s.answers.lookup id = some outcome) (l : Link Message)
    (text : String) : (s.read l text).1.answers.lookup id = some outcome := by
  rcases s.read_cases l text with same | ⟨answered, other, -, -, same⟩
  · rwa [same]
  · rw [same, List.lookup_append, found]
    rfl

/-- Of several texts that answer a request the first one counts. -/
theorem lookup_reads (awaits : s.Awaits id) {front back : List String}
    (first : ∀ earlier ∈ front, ∀ outcome, ¬Answers earlier id outcome)
    (answers : Answers text id outcome) (l : Link Message) :
    ((front ++ text :: back).foldl (fun (p : Session × Link Message) text => p.1.read p.2 text)
      (s, l)).1.answers.lookup id = some outcome := by
  induction front generalizing s l with
  | nil =>
      have found : (s.read l text).1.answers.lookup id = some outcome := by
        rw [read_of_answers answers awaits.1]
        simp [List.lookup_append, awaits.2]
      rw [List.nil_append, List.foldl_cons]
      generalize s.read l text = read at found
      obtain ⟨session, link⟩ := read
      induction back generalizing session link with
      | nil => exact found
      | cons later rest ih => exact ih _ _ (lookup_read found link later)
  | cons earlier rest ih =>
      have waiting := awaits.read l (first earlier List.mem_cons_self)
      exact ih waiting (fun text mem => first text (List.mem_cons_of_mem _ mem)) (s.read l earlier).2

/-- An answer that there is can be looked up. -/
theorem Answered.lookup (answered : s.Answered id) :
    ∃ outcome, s.answers.lookup id = some outcome := by
  obtain ⟨outcome, mem⟩ := answered
  cases found : s.answers.lookup id with
  | some outcome => exact ⟨outcome, rfl⟩
  | none => simpa using List.lookup_eq_none_iff.1 found _ mem

/-- Whoever reads changes nothing of a link but the frames that are queued. -/
theorem link_reads (s : Session) (l : Link Message) (texts : List String) :
    ∃ queued, (texts.foldl (fun (p : Session × Link Message) text => p.1.read p.2 text) (s, l)).2
      = { l with queued } := by
  induction texts generalizing s l with
  | nil => exact ⟨l.queued, rfl⟩
  | cons text rest ih =>
      have one : ∃ queued, (s.read l text).2 = { l with queued } := by
        unfold read
        split
        · split <;> exact ⟨l.queued, rfl⟩
        · split
          · rename_i sent
            exact ⟨_, Link.send_eq sent⟩
          · exact ⟨l.queued, rfl⟩
        · exact ⟨l.queued, rfl⟩
      obtain ⟨queued, same⟩ := one
      obtain ⟨queued', same'⟩ := ih (s.read l text).1 (s.read l text).2
      exact ⟨queued', same'.trans (by rw [same])⟩

end Session

namespace Client

/-- What the server, the clock and the readers do to a client without the client doing anything. -/
def Action.Outside : Action → Prop
  | .wait _ => True
  | .peerState _ _ => True
  | .peerFeed _ _ => True
  | .peerEndFeed _ => True
  | .peerGone _ => True
  | .peerTake _ => True
  | .run (.reader _) => True
  | _ => False

namespace System

variable {s t u : System} {a : Attempt} {c id due : Nat} {actions : List Action}

/-- Nothing from outside touches more than connections. -/
theorem act_outside {x : Action} (outside : x.Outside) :
    ∃ agenda connections, s.act x = { s with agenda, connections } := by
  have talked {t : System} (talk : Talk s t) :
      ∃ agenda connections, t = { s with agenda, connections } := ⟨_, _, talk.rest⟩
  cases x with
  | wait ms => exact ⟨_, s.connections, rfl⟩
  | peerState c next =>
      obtain ⟨agenda, connections, moved, -⟩ := peerState_eq s c next
      exact ⟨agenda, connections, moved⟩
  | peerFeed c text => exact talked (Calm.peerFeed s c text).talk
  | peerEndFeed c => exact talked (Calm.peerEndFeed s c).talk
  | peerGone c => exact talked (Calm.peerGone s c).talk
  | peerTake c => exact talked (Calm.peerTake s c).talk
  | run job =>
      cases job with
      | reader c => exact talked (.runReader s c)
      | _ => exact outside.elim
  | _ => exact outside.elim

/-! ## The ways to fail

One constructor for each place in which an attempt can fail, with the actions that take it there.
A refusal and a socket that is not open are noticed at once.  What happens during a handshake is
noticed by the attempt when it has its turn, and what comes by the link has to be read before
that. -/

/-- The ways in which an attempt fails, with what is done last.  Before it the server, the clock and
the readers may do whatever they like. -/
inductive Fails (a : Attempt) : System → List Action → Prop
  | after {s : System} {x : Action} {rest : List Action} (outside : x.Outside)
      (fails : Fails a (s.act x) rest) : Fails a s (x :: rest)
  /-- The connector refuses. -/
  | refused {s : System} {c : Nat} (opening : a.phase = .opening c) :
      Fails a s [.connectorFailed a.generation]
  /-- The connector opens a socket on which the server cannot be greeted: it is not open, or there
  is no time for an answer. -/
  | ungreeted {s : System} {c : Nat} {state : SocketState} (opening : a.phase = .opening c)
      (unable : state ≠ .opened ∨
        Duration.dueAt s.now s.state.options.handshakeTimeout ≤ s.now) :
      Fails a s [.connectorOpened a.generation state]
  /-- The time for the answer is up. -/
  | late {s : System} {c id due : Nat} (handshaking : a.phase = .handshaking c id due)
      (silent : (s.connection c).session.answers.lookup id = none) (up : due ≤ s.now) :
      Fails a s [.run (.attempt a.generation)]
  /-- The server answers with an error. -/
  | rejected {s : System} {c id due : Nat} {front back : List String} {text : String} {e : Failure}
      (handshaking : a.phase = .handshaking c id due)
      (listening : (s.connection c).link.listening = true)
      (awaits : (s.connection c).session.Awaits id)
      (inbound : (s.connection c).link.inbound = front ++ text :: back)
      (first : ∀ earlier ∈ front, ∀ outcome, ¬Answers earlier id outcome)
      (rejects : Answers text id (.error e)) :
      Fails a s [.run (.reader c), .run (.attempt a.generation)]
  /-- No more texts can come, whatever has come before. -/
  | ended {s : System} {c id due : Nat} (handshaking : a.phase = .handshaking c id due)
      (listening : (s.connection c).link.listening = true)
      (awaits : (s.connection c).session.Awaits id)
      (unfed : (s.connection c).link.feeding = false) :
      Fails a s [.run (.reader c), .run (.attempt a.generation)]
  /-- The request has failed already. -/
  | failed {s : System} {c id due : Nat} {e : Failure}
      (handshaking : a.phase = .handshaking c id due)
      (found : (s.connection c).session.answers.lookup id = some (.error e)) :
      Fails a s [.run (.attempt a.generation)]
  /-- The server has answered well, but it cannot be told that the handshake is over: the session
  has ended, or the socket is not open, or nobody is there. -/
  | untold {s : System} {c id due : Nat} {reply : Json}
      (handshaking : a.phase = .handshaking c id due)
      (found : (s.connection c).session.answers.lookup id = some (.ok reply))
      (unable : (s.connection c).session.disposed = true ∨
        (s.connection c).link.state ≠ .opened ∨ (s.connection c).link.peer = false) :
      Fails a s [.run (.attempt a.generation)]

/-- The handshake that an attempt waits for ends with a failure when the attempt runs. -/
def Doomed (s : System) (c id due : Nat) : Prop := ∃ e, s.handshake? c id due = some (.error e)

namespace Doomed

/-- A greeting whose time is up with no reply is doomed. -/
theorem of_late (silent : (s.connection c).session.answers.lookup id = none) (up : due ≤ s.now) :
    s.Doomed c id due := by
  unfold Doomed handshake? Session.resume Session.collect
  simp only [silent, if_pos up]
  exact ⟨_, rfl⟩

/-- A greeting that was rejected is doomed. -/
theorem of_error {e : Failure}
    (found : (s.connection c).session.answers.lookup id = some (.error e)) :
    s.Doomed c id due := by
  unfold Doomed handshake? Session.resume Session.collect
  simp only [found]
  exact ⟨_, rfl⟩

/-- A reply is of no use where the end of the handshake cannot be sent any more. -/
theorem of_reply {reply : Json}
    (found : (s.connection c).session.answers.lookup id = some (.ok reply))
    (unable : (s.connection c).session.disposed = true ∨
      (s.connection c).link.state ≠ .opened ∨ (s.connection c).link.peer = false) :
    s.Doomed c id due := by
  unfold Doomed handshake? Session.resume Session.collect Session.finishHandshake
  simp only [found]
  split
  · exact ⟨_, rfl⟩
  · -- The message would go out only from a session that can be used, to a peer that is there.
    rename_i link told
    unfold Session.notify at told
    split at told
    · cases told
    · rename_i usable
      have lasts := ((Session.inspect_eq_ok_iff _ _).1 usable).1
      obtain ⟨opened, there, -⟩ := Link.send_eq_ok_iff.1 told
      rcases unable with gone | shut | nobody
      · cases lasts.symm.trans gone
      · exact absurd (of_decide_eq_true opened) shut
      · cases nobody.symm.trans there

end Doomed

/-- A server that has answered with an error has been read to have done so. -/
theorem doomed_of_rejected {front back : List String} {text : String} {e : Failure}
    (listening : (s.connection c).link.listening = true)
    (awaits : (s.connection c).session.Awaits id)
    (inbound : (s.connection c).link.inbound = front ++ text :: back)
    (first : ∀ earlier ∈ front, ∀ outcome, ¬Answers earlier id outcome)
    (rejects : Answers text id (.error e)) : (s.runReader c).Doomed c id due := by
  obtain ⟨session, link, read, made⟩ := connection_runReader s listening
  rw [inbound] at read
  have found : session.answers.lookup id = some (.error e) :=
    (congrArg (fun read => read.1.answers.lookup id) read).symm.trans
      (Session.lookup_reads awaits first rejects _)
  refine .of_error (e := e) ?_
  rw [made]
  split
  · exact found
  · rw [Session.endOfTexts, Session.failPending, List.lookup_append]
    exact congrArg (Option.or · _) found

/-- A session whose texts have ended fails its handshake, even if the server has answered well. -/
theorem doomed_of_ended (listening : (s.connection c).link.listening = true)
    (awaits : (s.connection c).session.Awaits id)
    (unfed : (s.connection c).link.feeding = false) : (s.runReader c).Doomed c id due := by
  obtain ⟨session, link, read, made⟩ := connection_runReader s listening
  obtain ⟨queued, same⟩ := (s.connection c).session.link_reads
    { (s.connection c).link with inbound := [] } (s.connection c).link.inbound
  have remembers := (Session.Remembers.foldl_read (s.connection c).link.inbound
    (s.connection c).session { (s.connection c).link with inbound := [] }).trans (.endOfTexts _)
  rw [read] at same remembers
  rw [if_neg (by rw [show link = _ from same]; simp [unfed])] at made
  have answered := (remembers.pending id awaits.1).resolve_left List.not_mem_nil
  obtain ⟨outcome, found⟩ := answered.lookup
  have here : (s.runReader c).connection c = _ := made
  cases outcome with
  | error e => exact .of_error (by rw [here]; exact found)
  | ok reply => exact .of_reply (by rw [here]; exact found) (.inl (by rw [here]; rfl))

/-! ## What is left

What all of these have in common is told from the step at which the attempt ends. -/

/-- What is left of a client whose attempt has failed. -/
structure Failed (s t : System) (a : Attempt) : Prop where
  /-- No session, no socket and no health checks; the count of failed attempts is one higher, and a
  fresh retry is pending.  Everything else is as it was. -/
  state : t.state = { s.state with
    current := none, socket := none, checks := none
    retry := { s.state.retry with
      attempts := min (s.state.retry.attempts + 1) Word32.greatest
      issued := s.state.retry.issued + 1
      pending := some (s.state.retry.issued + 1) } }
  /-- The only pause is the one before the retry, after the delay that goes with the count
  before. -/
  pauses : t.pauses = [⟨s.state.retry.issued + 1,
    s.state.retry.backoff.delay s.state.retry.attempts, none⟩]
  attempts : t.attempts = []
  series : t.series = []
  registry : t.registry = s.registry
  sessions : ∀ c, (t.connection c).session.disposed = true ∧ (t.connection c).session.pending = []
  /-- If a session was started for the attempt, its socket is closing or closed. -/
  socket : ∀ c, a.phase.connection? = some c → (t.connection c).number.isSome →
    (t.connection c).link.state = .closing ∨ (t.connection c).link.state = .closed

/-- Of all moves with an attempt under way only its end spends a token of the retry slot. -/
theorem Move.failed (move : Move s t) (working : Working s) (single : s.attempts = [a])
    (underway : a.phase.Underway)
    (spent : t.state.retry.issued = s.state.retry.issued + 1)
    (socket : t.attempts = [] → ∀ c, a.phase = .opening c → (t.connection c).number.isSome →
      (t.connection c).link.state = .closing ∨ (t.connection c).link.state = .closed) :
    Failed s t a := by
  have unspent {p : Prop} (same : t.state.retry.issued = s.state.retry.issued) : p :=
    absurd (same.symm.trans spent) (Nat.ne_of_lt (Nat.lt_succ_self _))
  cases move with
  | talk talk => exact unspent (by rw [talk.state])
  | aside rest pauses series => exact unspent (by rw [rest])
  | soon calm settled dropped left => exact absurd underway (settled a (by simp [single]))
  | start calm disposed endpoint pending shut issued => exact unspent issued
  | lapse unplaced => exact unspent rfl
  | call single starting => exact unspent rfl
  | greet single opening rest length kept coherent others begun => exact unspent (by rw [rest])
  | install talk single underway session opened => exact unspent rfl
  | @finish agenda connections sessions b own length disposed coherent shut =>
      obtain rfl : a = b := List.singleton_inj.1 (single.symm.trans own)
      refine ⟨rfl, rfl, rfl, rfl, rfl, fun c => ⟨disposed c, (coherent c).drained (disposed c)⟩, ?_⟩
      intro c uses started
      rcases shut c with closing | ⟨other, -⟩
      · exact (SocketState.closing_le_iff _).1 closing
      · cases phase : a.phase with
        | starting =>
            rw [phase] at uses
            cases uses
        | opening d =>
            rw [phase] at uses
            exact socket rfl c (phase.trans (congrArg Phase.opening (Option.some.inj uses))) started
        | handshaking d id due =>
            rw [phase] at uses other
            exact absurd uses other
        | watching d =>
            rw [phase] at uses other
            exact absurd uses other
  | destroy =>
      obtain ⟨u, -, destroyed⟩ := destroy_eq working.toTidy working.lasting
      exact unspent (by rw [destroyed]; rfl)

/-- No session has been started on a connection that the connector has still to open. -/
theorem Reachable.unstarted {options : Options} (run : Reachable options s) (alive : s.alive = true)
    (mem : a ∈ s.attempts) (opening : a.phase = .opening c) : (s.connection c).number = none := by
  refine (run.keeps (P := fun s => ∀ a ∈ s.attempts, ∀ c, a.phase = .opening c →
    (s.connection c).number = none) nofun ?move ?rest ?moved alive).2 a mem c opening
  case move =>
    intro s t working move holds
    cases move with
    | talk talk =>
        intro a mem c opening
        rw [(talk.connection c).rest]
        exact holds a (talk.attempts ▸ mem) c opening
    | aside rest pauses series =>
        rw [rest]
        exact holds
    | @soon u current calm settled dropped left =>
        obtain ⟨agenda, pauses, retry, armed⟩ :=
          reconnectSoon_form { u with state := { s.state with current } }
        rw [armed]
        intro a mem c opening
        refine absurd ?_ (settled a (calm.attempts ▸ mem))
        rw [opening]
        trivial
    | start calm disposed endpoint pending shut issued => simp
    | lapse unplaced => exact holds
    | @call a single starting =>
        intro b mem c opening
        rw [List.mem_singleton.1 mem] at opening
        cases opening
        show (({ s with connections := s.connections ++ [_] } : System).connection _).number = none
        rw [connection_append, if_pos rfl]
        rfl
    | greet single opening rest length kept coherent others begun =>
        rw [rest]
        simp
    | install talk single underway session opened => simp
    | finish single length disposed coherent shut => simp
    | destroy => simp [working.destroy.attempts]
  case rest =>
    intro s t quiet frozen holds
    simp [quiet.attempts]
  case moved =>
    intro s d next holds a mem c opening
    obtain ⟨agenda, connections, moved, -, same⟩ := peerState_eq s d next
    rw [moved] at mem ⊢
    exact (congrArg Connection.number (same c).rest).trans (holds a mem c opening)

/-- A session that is given up right after it was started leaves its socket closing. -/
theorem closing_startSession {g : Nat} (there : s.attempts ≠ [])
    (ended : (s.startSession g c).attempts = []) :
    SocketState.closing.rank ≤ ((s.startSession g c).connection c).link.state.rank := by
  obtain ⟨call, session, link, greeted, begun⟩ := startSession_eq s g c
  rw [begun] at ended ⊢
  cases call with
  | «over» outcome =>
      obtain ⟨e, rfl⟩ := Session.error_of_call greeted
      obtain ⟨t, -, -, closing, finished⟩ :=
        finishHandshake_error ((s.opening c).exchange c session link) g c e
      simp only [finished]
      exact Nat.le_trans closing (connection_finishAttempt t g c).rank
  | waiting id due =>
      -- The attempt would go on.
      have kept : ((s.opening c).exchange c session link).attempts = s.attempts :=
        (Talk.call _ c greeted).attempts
      have gone : ((s.opening c).exchange c session link).attempts.map _ = [] := ended
      rw [kept] at gone
      exact absurd (List.map_eq_nil_iff.1 gone) there

/-! ## All of it together

Each way is followed up to that step.  In between time may pass and servers may talk, and none of
that concerns the client. -/

/-- An attempt of a client in some run that somebody holds and that has not been destroyed. -/
structure Pursued (options : Options) (s : System) (a : Attempt) : Prop where
  run : Reachable options s
  alive : s.alive = true
  lasting : s.state.destroyed = false
  mem : a ∈ s.attempts

namespace Pursued

variable {options : Options}

/-- Nothing from outside stops an attempt. -/
theorem outside (pursued : Pursued options s a) {x : Action} (outside : x.Outside) :
    Pursued options (s.act x) a := by
  obtain ⟨agenda, connections, same⟩ := act_outside (s := s) outside
  refine ⟨pursued.run.act x, ?_, ?_, ?_⟩
  · rw [same]
    exact pursued.alive
  · rw [same]
    exact pursued.lasting
  · rw [same]
    exact pursued.mem

theorem working (pursued : Pursued options s a) : Working s :=
  pursued.run.working pursued.alive pursued.lasting

theorem single (pursued : Pursued options s a) : s.attempts = [a] :=
  (pursued.working.attempt a pursued.mem).1

theorem found (pursued : Pursued options s a) :
    s.attempts.find? (·.generation = a.generation) = some a := by simp [pursued.single]

theorem wanted (pursued : Pursued options s a) : s.wanted a.generation = true :=
  pursued.working.wanted pursued.alive pursued.mem

theorem called (pursued : Pursued options s a) (opening : a.phase = .opening c) :
    s.call? a.generation = some c := by
  rw [call?, pursued.found]
  simp only [opening]

/-- An action that counts as a failure of an attempt under way has ended it. -/
theorem failed (pursued : Pursued options s a) (underway : a.phase.Underway) {x : Action}
    (failure : s.bearing x = .failure) (move : Move s (s.act x))
    (socket : (s.act x).attempts = [] → ∀ c, a.phase = .opening c →
      ((s.act x).connection c).number.isSome →
      ((s.act x).connection c).link.state = .closing ∨
        ((s.act x).connection c).link.state = .closed) : Failed s (s.act x) a := by
  have bears := bears_act (s := s) (pursued.run.separate pursued.alive).attempts x
  rw [failure] at bears
  exact move.failed pursued.working pursued.single underway (by rw [bears.1]; rfl) socket

theorem refused (pursued : Pursued options s a) (opening : a.phase = .opening c) :
    Failed s (s.act (.connectorFailed a.generation)) a := by
  refine pursued.failed (by rw [opening]; trivial) ?_
    (pursued.working.move_connectorFailed pursued.alive _) fun _ d same started => ?_
  · simp [bearing, pursued.called opening, pursued.wanted]
  · -- Nothing was started on the connection, and a refusal starts nothing.
    have none := pursued.run.unstarted pursued.alive pursued.mem same
    have done : s.act (.connectorFailed a.generation) = s.finishAttempt a.generation := by
      show s.connectorFailed a.generation = _
      simp only [connectorFailed, pursued.called opening]
    rw [done, (connection_finishAttempt s a.generation d).rest] at started
    cases none ▸ started

theorem ungreeted (pursued : Pursued options s a) (opening : a.phase = .opening c)
    {state : SocketState} (unable : state ≠ .opened ∨
      Duration.dueAt s.now s.state.options.handshakeTimeout ≤ s.now) :
    Failed s (s.act (.connectorOpened a.generation state)) a := by
  have failure : s.bearing (.connectorOpened a.generation state) = .failure := by
    rw [bearing, pursued.called opening, pursued.wanted]
    simpa [imp_iff_not_or] using unable
  have move := pursued.working.move_connectorOpened pursued.alive a.generation state
  have underway : a.phase.Underway := by
    rw [opening]
    trivial
  refine pursued.failed underway failure move fun ended d same _ => ?_
  obtain rfl : c = d := Phase.opening.inj (opening.symm.trans same)
  let held := { s.update c fun k => k.opened state with
    state := { s.state with socket := some c } }
  have begun : s.act (.connectorOpened a.generation state)
      = held.startSession a.generation c := by
    show s.connectorOpened a.generation state = _
    simp only [connectorOpened, pursued.called opening, pursued.wanted, if_true]
    rfl
  rw [← SocketState.closing_le_iff]
  rw [begun] at ended ⊢
  exact closing_startSession (s := held) (List.ne_nil_of_mem pursued.mem) ended

/-- A doomed handshake fails when its attempt runs. -/
theorem doomed (pursued : Pursued options s a) (handshaking : a.phase = .handshaking c id due)
    (doomed : s.Doomed c id due) : Failed s (s.act (.run (.attempt a.generation))) a := by
  obtain ⟨e, fails⟩ := doomed
  refine pursued.failed (by rw [handshaking]; trivial) ?_
    (pursued.working.move_runAttempt pursued.alive _) fun _ d same => ?_
  · simp [bearing, pursued.found, pursued.wanted, handshaking, phaseBearing, fails,
      handshakeBearing]
  · cases handshaking.symm.trans same

end Pursued

/-- What fails after something from outside fails no differently. -/
theorem Failed.outside {x : Action} (outside : x.Outside) (failed : Failed (s.act x) t a) :
    Failed s t a := by
  obtain ⟨agenda, connections, same⟩ := act_outside (s := s) outside
  rw [same] at failed
  exact ⟨failed.state, failed.pauses, failed.attempts, failed.series, failed.registry,
    failed.sessions, failed.socket⟩

theorem Fails.leaves {options : Options} (fails : Fails a s actions)
    (pursued : Pursued options s a) : Failed s (s.acts actions) a := by
  induction fails with
  | after outside _ ih => exact (ih (pursued.outside outside)).outside outside
  | refused opening => exact pursued.refused opening
  | ungreeted opening unable => exact pursued.ungreeted opening unable
  | late handshaking silent up => exact pursued.doomed handshaking (.of_late silent up)
  | @rejected s c id due _ _ _ _ handshaking listening awaits inbound first rejects =>
      have read := pursued.outside (x := .run (.reader c)) trivial
      exact .outside (x := .run (.reader c)) trivial
        (read.doomed handshaking (doomed_of_rejected listening awaits inbound first rejects))
  | @ended s c id due handshaking listening awaits unfed =>
      have read := pursued.outside (x := .run (.reader c)) trivial
      exact .outside (x := .run (.reader c)) trivial
        (read.doomed handshaking (doomed_of_ended listening awaits unfed))
  | failed handshaking found => exact pursued.doomed handshaking (.of_error found)
  | untold handshaking found unable => exact pursued.doomed handshaking (.of_reply found unable)

/-- Whatever way the latest attempt of a client fails that somebody holds and that has not been
destroyed, and whatever it has come to by then, what is left is the same: the client as it was, but
without a session, a socket and health checks, with one more failed attempt on the count, up to the
greatest word, and with one retry pending, after the delay that goes with the count before.  Every
session is over and nobody waits for it, and if one was started for the attempt, its socket is
closing or closed. -/
theorem failures_agree {options : Options} (run : Reachable options s) (alive : s.alive = true)
    (lasting : s.state.destroyed = false) (mem : a ∈ s.attempts) (fails : Fails a s actions) :
    Failed s (s.acts actions) a := fails.leaves ⟨run, alive, lasting, mem⟩

/-- A client whose server has been greeted. -/
def greetedOnce : System :=
  (System.fresh .standard).acts [.connect "one", .run (.attempt 1), .connectorOpened 1 .opened]

/-- The server goes away. -/
theorem greetedOnce_failed :
    Failed greetedOnce (greetedOnce.acts [.peerGone 0, .run (.reader 0), .run (.attempt 1)])
      ⟨1, "one", .handshaking 0 1 10000⟩ := by
  have run : Reachable .standard greetedOnce := Reachable.fresh.acts _
  refine failures_agree run (by decide +kernel) (by decide +kernel) (by decide +kernel)
    (.after trivial (.ended rfl (by decide +kernel) ⟨by decide +kernel, rfl⟩ (by decide +kernel)))

end System
end Client
end LanguageBridge
