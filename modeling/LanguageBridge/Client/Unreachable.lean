import LanguageBridge.Client.Run

/-!
# A client that reaches nobody

The connector of this client fails every call at once, so the client retries for as long as it
lives, each time after a longer delay up to the greatest one.  Everything else is as usual.
-/

namespace LanguageBridge.Client.System

/-- One job run until it has to wait; whoever asks the connector is told that it has failed. -/
def runUnreachable (job : Job) (s : System) : System :=
  let s := s.run job
  match job with
  | .attempt generation => s.connectorFailed generation
  | .reader _ => s
  | .pause _ => s
  | .checks _ => s
  | .request _ => s
  | .peer _ => s
  | .parcel _ => s

instance : Scheduled System Job where
  agenda := System.agenda
  withAgenda s a := { s with agenda := a }
  poll := runUnreachable

/-- Time passed up to a time, and everything run that is ready then. -/
def passTo (s : System) (time : Nat) : System :=
  Scheduled.advance time Scheduled.patience (Scheduled.settle Scheduled.patience s)

end LanguageBridge.Client.System
