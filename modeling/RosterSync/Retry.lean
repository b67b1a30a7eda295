/-!
Retrying with quadratic backoff.

A policy allows a number of attempts (at least one is always made) and a base delay. Before
attempt `a` the wait is the base delay times `(a - 1)²`, where the square stops at `2^32 - 1`;
a wait too long for a duration of `2^64 - 1` seconds is that duration's maximum. The loop stops
at the first success, at a failure that is not worth retrying, or when the attempts are spent,
and answers with the last outcome.

A supervised background task always joins: whether its body finished, failed or panicked, the
failure is logged and goes no further.
-/

-- natural powers take the core instance even where the monoid power is in scope
attribute [local instance (2000)] instPowNat

namespace RosterSync

structure RetryPolicy where
  maxAttempts : Nat := 3
  baseDelayMs : Nat := 1000
deriving DecidableEq, Repr

namespace RetryPolicy

/-- The largest duration, in milliseconds: `2^64 - 1` seconds and 999 milliseconds. -/
def maxDurationMs : Nat := (2 ^ (64 : Nat) - 1) * 1000 + 999

/-- The wait before attempt `attempt` (attempts count from one), in milliseconds. -/
def delayBefore (p : RetryPolicy) (attempt : Nat) : Nat :=
  let n := attempt - 1
  let factor := min (n * n) (2 ^ (32 : Nat) - 1)
  let total := p.baseDelayMs * factor
  if total / 1000 > 2 ^ (64 : Nat) - 1 then maxDurationMs else total

def attemptBudget (p : RetryPolicy) : Nat := max p.maxAttempts 1

end RetryPolicy

/-- Runs `op` until it succeeds, fails for good, or the attempts after `attempt` are spent;
`left` is the number of attempts still allowed after this one. -/
def retryFrom {m : Type → Type} [Monad m] {ε α : Type} (p : RetryPolicy) (retryable : ε → Bool)
    (sleep : Nat → m Unit) (op : m (Except ε α)) : Nat → Nat → m (Except ε α)
  | attempt, left => do
    match ← op with
    | .ok v => pure (.ok v)
    | .error e =>
      if !retryable e then pure (.error e)
      else match left with
        | 0 => pure (.error e)
        | left' + 1 => do
          sleep (p.delayBefore (attempt + 1))
          retryFrom p retryable sleep op (attempt + 1) left'

def retry {m : Type → Type} [Monad m] {ε α : Type} (p : RetryPolicy) (retryable : ε → Bool)
    (sleep : Nat → m Unit) (op : m (Except ε α)) : m (Except ε α) :=
  retryFrom p retryable sleep op 1 (p.attemptBudget - 1)

inductive TaskEnd where
  | finished
  | failed (message : String)
  | panicked (message : String)
deriving DecidableEq, Repr

/-- Whether waiting for a supervised task returns: it always does. -/
def TaskEnd.joins : TaskEnd → Bool
  | .finished => true
  | .failed _ => true
  | .panicked _ => true

end RosterSync
