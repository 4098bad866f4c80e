import ForexJournal.Error

/-!
# Retrying conflicting work

Work that fails with a retryable error (a transaction conflict) is tried again, up to the
policy's number of attempts (at least one); any other error is returned at once. When the
last attempt fails too, the result is `RetriesExhausted` with the number of attempts made and
the last error's message. Between attempts the caller waits
`min (base * 2 ^ min (retry - 1) 16, max)` milliseconds.
-/

namespace ForexJournal

/-- How often and how patiently conflicting work is retried. -/
structure RetryPolicy where
  maxAttempts : Nat
  baseBackoffMs : Nat
  maxBackoffMs : Nat
  deriving DecidableEq, Repr

namespace RetryPolicy

/-- Three attempts, waiting 25 ms and doubling up to 500 ms. -/
def default : RetryPolicy := ⟨3, 25, 500⟩

def backoff (p : RetryPolicy) (retry : Nat) : Nat :=
  Nat.min (p.baseBackoffMs * Nat.pow 2 (Nat.min (retry - 1) 16)) p.maxBackoffMs

end RetryPolicy

/-- Runs `operation` for attempts `attempt`, `attempt + 1`, … up to `last`, giving the result
and the number of the attempt it came from. -/
def retryFrom {α : Type} (operation : Nat → Except JournalError α) (last : Nat) :
    (attempt : Nat) → (fuel : Nat) → Except JournalError α × Nat
  | attempt, fuel =>
    match operation attempt with
    | .ok v => (.ok v, attempt)
    | .error e =>
      if !e.isRetryable then (.error e, attempt)
      else
        match fuel with
        | 0 => (.error (.retriesExhausted attempt e.message), attempt)
        | fuel + 1 =>
          if last ≤ attempt then (.error (.retriesExhausted attempt e.message), attempt)
          else retryFrom operation last (attempt + 1) fuel

/-- Runs `operation` under the policy; the operation is told the number of the attempt,
counting from 1. Gives the result and the number of attempts made. -/
def withRetry {α : Type} (p : RetryPolicy) (operation : Nat → Except JournalError α) :
    Except JournalError α × Nat :=
  let attempts := Nat.max p.maxAttempts 1
  retryFrom operation attempts 1 attempts

end ForexJournal
