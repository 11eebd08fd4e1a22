import LanguageBridge.Backoff
import LanguageBridge.Word32

/-!
# The retry slot

At most one retry is pending at any time.  Arming another one supersedes the pending one.  Every
armed retry has a token of its own; when its timer elapses it claims the slot with that token, and
a token that has been cancelled or superseded claims nothing.

A backoff retry counts an attempt and waits longer after each; a forced one waits a fixed short
time and leaves the count alone.
-/

namespace LanguageBridge

/-- The count of attempts and the pending retry. -/
structure Retry where
  backoff : Backoff
  forcedDelay : Duration
  /-- Failed attempts since the last reset. -/
  attempts : Nat
  /-- The number of tokens handed out; they count from one. -/
  issued : Nat
  /-- The token of the pending retry. -/
  pending : Option Nat
  deriving DecidableEq, Repr

namespace Retry

/-- A slot in which nothing has happened. -/
def fresh (backoff : Backoff) (forcedDelay : Duration) : Retry :=
  ⟨backoff, forcedDelay, 0, 0, none⟩

/-- A retry that has just been armed. -/
structure Armed where
  token : Nat
  delay : Duration
  deriving DecidableEq, Repr

/-- The slot given to a new token. -/
def arm (r : Retry) (delay : Duration) : Armed × Retry :=
  (⟨r.issued + 1, delay⟩, { r with issued := r.issued + 1, pending := some (r.issued + 1) })

/-- A retry after one more failed attempt. -/
def scheduleBackoff (r : Retry) : Armed × Retry :=
  let counted := { r with attempts := min (r.attempts + 1) Word32.greatest }
  counted.arm (r.backoff.delay r.attempts)

/-- A retry after the fixed short delay. -/
def scheduleForced (r : Retry) : Armed × Retry := r.arm r.forcedDelay

/-- The pending retry cancelled. -/
def cancel (r : Retry) : Retry := { r with pending := none }

/-- The count of attempts set back. -/
def reset (r : Retry) : Retry := { r with attempts := 0 }

/-- The slot claimed with a token, and whether it was the pending one. -/
def claim (r : Retry) (token : Nat) : Bool × Retry :=
  if r.pending = some token then (true, { r with pending := none }) else (false, r)

@[simp] theorem pending_arm (r : Retry) (delay : Duration) :
    (r.arm delay).2.pending = some (r.arm delay).1.token := rfl

@[simp] theorem issued_arm (r : Retry) (delay : Duration) :
    (r.arm delay).2.issued = r.issued + 1 := rfl

@[simp] theorem pending_cancel (r : Retry) : r.cancel.pending = none := rfl

theorem claim_iff (r : Retry) (token : Nat) :
    (r.claim token).1 = true ↔ r.pending = some token := by
  unfold claim
  split <;> simp [*]

/-- A claim that fails changes nothing. -/
theorem claim_of_ne {r : Retry} {token : Nat} (h : r.pending ≠ some token) :
    r.claim token = (false, r) := by
  rw [claim, if_neg h]

/-- A token claims the slot once at most. -/
theorem claim_claim (r : Retry) (token : Nat) : ((r.claim token).2.claim token).1 = false := by
  unfold claim
  by_cases h : r.pending = some token <;> simp [h]

end Retry
end LanguageBridge
