import EventRelay.Settings.Basic
set_option autoImplicit false

/-!
When a failed delivery is tried again. The pause doubles from attempt to attempt up to a cap; to
keep deliveries apart a random number of milliseconds is added, less than a tenth of the pause.
Times are in nanoseconds.
-/
namespace EventRelay

/-- How often and how soon a failed delivery is tried again. -/
structure RetryPolicy where
  maxAttempts : Nat
  base : Nat
  cap : Nat
  positive : 1 ≤ maxAttempts
  ordered : base ≤ cap
deriving DecidableEq, Repr

/-- The pauses that may be drawn: the least, and how many milliseconds there are to draw from. -/
structure Pause where
  least : Nat
  spread : Nat
deriving DecidableEq, Repr

namespace RetryPolicy

/-- A policy; there is always one attempt, and the cap is never below the base. -/
def of (maxAttempts base cap : Nat) : RetryPolicy where
  maxAttempts := max maxAttempts 1
  base
  cap := max cap base
  positive := Nat.le_max_right maxAttempts 1
  ordered := Nat.le_max_right cap base

/-- The policy that gives up at once. -/
def never : RetryPolicy := of 1 0 0

def millisecond : Nat := 1000000

def ofSettings (retries : RetrySettings) : RetryPolicy :=
  of retries.attempts.toNat (retries.baseDelayMs.toNat * millisecond)
    (retries.maxDelayMs.toNat * millisecond)

/-- The factor of the base after an attempt that failed: it doubles, within a word of 32 bits. -/
def factor (attempt : Nat) : Nat :=
  if attempt - 1 < 32 then Nat.pow 2 (attempt - 1) else Nat.pow 2 32 - 1

/-- The pause after an attempt, without the random part. -/
def delay (policy : RetryPolicy) (attempt : Nat) : Nat :=
  min (policy.base * factor attempt) policy.cap

def pause (policy : RetryPolicy) (attempt : Nat) : Pause :=
  ⟨policy.delay attempt, policy.delay attempt / millisecond / 10⟩

/-- The pauses before the next attempt, unless the delivery is given up. Attempts count from one. -/
def next? (policy : RetryPolicy) (attempt : Nat) (error : FunctionError) : Option Pause :=
  if ¬ error.isRetryable ∨ policy.maxAttempts ≤ attempt then none else some (policy.pause attempt)

end RetryPolicy

def Pause.most (pause : Pause) : Nat :=
  pause.least + (pause.spread - 1) * RetryPolicy.millisecond

end EventRelay
