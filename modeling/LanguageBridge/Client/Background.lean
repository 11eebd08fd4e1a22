import LanguageBridge.Client.Validity

/-!
# What runs in the background

Beside connection attempts and requests three kinds of jobs run for a client: the pause before a
retry, which ends with a new connection; the health checks, which go on until they are stopped or
the client is gone; and the reader of each session, which hands every reply to whoever waits for it
and ends the session when no more texts can come.
-/

namespace LanguageBridge.Client.System

/-! ## Pauses -/

/-- The pause before a retry over: the retry connects again if it is still the pending one. -/
def endPause (s : System) (token : Nat) : System :=
  let s := { s with pauses := s.pauses.filter (·.token ≠ token) }
  if !s.alive then s
  else
    match s.state.retry.claim token with
    | (false, _) => s
    | (true, retry) =>
      let s := { s with state := { s.state with retry := retry } }
      match s.state.endpoint with
      | none => s
      | some endpoint => s.connect endpoint

/-- A pause begun, or ended when its time has come. -/
def runPause (s : System) (token : Nat) : System :=
  match s.pauses.find? (·.token = token) with
  | none => s
  | some p =>
    match p.due with
    | some due => if due ≤ s.now then s.endPause token else s
    | none =>
      let due := Duration.dueAt s.now p.delay
      if due ≤ s.now then s.endPause token
      else
        let pauses := s.pauses.map fun (p : Pause) =>
          if p.token = token then { p with due := some due } else p
        { s with pauses }.arm (.pause token) due

/-! ## Health checks -/

/-- A series of health checks moved on. -/
def setMonitor (s : System) (id : Nat) (monitor : Monitor) : System :=
  { s with series := s.series.map fun m => if m.id = id then { m with monitor } else m }

/-- A health check when its time has come; a series whose client is gone ends. -/
def runChecks (s : System) (id : Nat) : System :=
  match s.series.find? (·.id = id) with
  | none => s
  | some m =>
    match m.monitor.start with
    | none =>
      let monitor := m.monitor.begin s.now
      (s.setMonitor id monitor).arm (.checks id) monitor.nextDue
    | some _ =>
      if s.now < m.monitor.nextDue then s
      else if !s.alive || s.state.destroyed then s.endChecks id
      else
        let monitor := m.monitor.checked
        (s.checkHealth.setMonitor id monitor).arm (.checks id) monitor.nextDue

/-! ## Readers -/

/-- All texts that have arrived on a connection read, and its session ended if no more can come. -/
def runReader (s : System) (c : Nat) : System :=
  let k := s.connection c
  if !k.link.listening then s
  else
    let quiet := { k.link with inbound := [] }
    let (session, link) := k.link.inbound.foldl (fun (p : Session × Link Message) text =>
      p.1.read p.2 text) (k.session, quiet)
    let settled := k.session.pending.filter fun id => id ∉ session.pending
    let s' := (s.exchange c session link).wakeAll (s.waiters c settled)
    if link.feeding then s'
    else (s'.exchange c session.endOfTexts link.stopListening).wakeAll (s.waiters c session.pending)

end LanguageBridge.Client.System
