import Mathlib
import ForexJournal.Retry

/-!
# What a run of retries does

Attempt `n` of an operation either decides the run (a success, or an error not worth retrying)
or fails with a conflict worth another attempt. A run under a policy of `M` attempts (at least
one) stops at the first decisive attempt, or at attempt `M`; every attempt before the one it
stops at failed with a conflict, and its result is that attempt's outcome: the success or error
itself, or, for a conflict at the last attempt, the exhaustion of the attempts.
-/

namespace ForexJournal

/-- The result a run of retries gives when its last attempt, number `n`, ended with `r`: a
success or an error not worth retrying is passed on, and an error still worth retrying means
the attempts ran out. -/
def retryOutcome {α : Type} (n : Nat) : Except JournalError α → Except JournalError α
  | .ok v => .ok v
  | .error e => if e.isRetryable then .error (.retriesExhausted n e.message) else .error e

/-- An attempt's result ends the retries: a success, or an error not worth retrying. -/
def Decisive {α : Type} : Except JournalError α → Prop
  | .ok _ => True
  | .error e => e.isRetryable = false

section Retries

variable {α : Type} (op : Nat → Except JournalError α) (last : Nat)

theorem retryFrom_of_decisive {a : Nat} (h : Decisive (op a)) (fuel : Nat) :
    retryFrom op last a fuel = (retryOutcome a (op a), a) := by
  unfold retryFrom
  cases hop : op a with
  | ok v => rfl
  | error e =>
    rw [hop] at h
    simp [Decisive] at h
    simp [h, retryOutcome]

theorem retryFrom_of_exhausted {a fuel : Nat} (h : ¬ Decisive (op a)) (hl : last ≤ a ∨ fuel = 0) :
    retryFrom op last a fuel = (retryOutcome a (op a), a) := by
  unfold retryFrom
  cases hop : op a with
  | ok v => rw [hop] at h; simp [Decisive] at h
  | error e =>
    rw [hop] at h
    have he : e.isRetryable = true := by simpa [Decisive] using h
    rcases hl with hl | rfl
    · cases fuel <;> simp [he, hl, retryOutcome]
    · simp [he, retryOutcome]

theorem retryFrom_of_retry {a : Nat} (h : ¬ Decisive (op a)) (hl : a < last) (fuel : Nat) :
    retryFrom op last a (fuel + 1) = retryFrom op last (a + 1) fuel := by
  conv => lhs; unfold retryFrom
  cases hop : op a with
  | ok v => rw [hop] at h; simp [Decisive] at h
  | error e =>
    rw [hop] at h
    have he : e.isRetryable = true := by simpa [Decisive] using h
    simp [he, Nat.not_le.2 hl]

/-- A run of retries from attempt `a`: it stops at an attempt `n` no earlier than `a` and no
later than the last allowed; every attempt before `n` failed with an error worth retrying;
it stops before the last allowed attempt only at a decisive result; and its result is the
outcome of attempt `n`. -/
theorem retryFrom_spec (fuel a : Nat) (hfuel : last ≤ a + fuel) :
    a ≤ (retryFrom op last a fuel).2 ∧ (retryFrom op last a fuel).2 ≤ max a last ∧
    (∀ k, a ≤ k → k < (retryFrom op last a fuel).2 → ¬ Decisive (op k)) ∧
    ((retryFrom op last a fuel).2 < last → Decisive (op (retryFrom op last a fuel).2)) ∧
    (retryFrom op last a fuel).1 =
      retryOutcome (retryFrom op last a fuel).2 (op (retryFrom op last a fuel).2) := by
  by_cases hd : Decisive (op a)
  · rw [retryFrom_of_decisive op last hd]
    exact ⟨le_rfl, le_max_left _ _, fun k hk hka => absurd hka (by omega), fun _ => hd, rfl⟩
  by_cases hl : last ≤ a ∨ fuel = 0
  · rw [retryFrom_of_exhausted op last hd hl]
    exact ⟨le_rfl, le_max_left _ _, fun k hk hka => absurd hka (by omega),
      fun h => by omega, rfl⟩
  obtain ⟨fuel, rfl⟩ : ∃ f, fuel = f + 1 := ⟨fuel - 1, by omega⟩
  rw [retryFrom_of_retry op last hd (by omega)]
  obtain ⟨h1, h2, h3, h4, h5⟩ := retryFrom_spec fuel (a + 1) (by omega)
  refine ⟨by omega, by omega, fun k hk hkn => ?_, h4, h5⟩
  rcases Nat.eq_or_lt_of_le hk with rfl | hk
  · exact hd
  · exact h3 k hk hkn

/-- A run of retries under a policy: it stops at an attempt `n` between 1 and the policy's number
of attempts (at least one); all attempts before `n` failed with an error worth retrying; it
stops before the last attempt only at a decisive result; and it gives the outcome of attempt
`n`. -/
theorem withRetry_spec (p : RetryPolicy) :
    1 ≤ (withRetry p op).2 ∧ (withRetry p op).2 ≤ max p.maxAttempts 1 ∧
    (∀ k, 1 ≤ k → k < (withRetry p op).2 → ¬ Decisive (op k)) ∧
    ((withRetry p op).2 < max p.maxAttempts 1 → Decisive (op (withRetry p op).2)) ∧
    (withRetry p op).1 = retryOutcome (withRetry p op).2 (op (withRetry p op).2) := by
  have hM : 1 ≤ max p.maxAttempts 1 := le_max_right _ _
  obtain ⟨h1, h2, h3, h4, h5⟩ :=
    retryFrom_spec op (max p.maxAttempts 1) (max p.maxAttempts 1) 1 (by omega)
  rw [Nat.max_eq_right hM] at h2
  exact ⟨h1, h2, h3, h4, h5⟩

theorem withRetry_eq_ok_iff (p : RetryPolicy) (v : α) :
    (withRetry p op).1 = .ok v ↔ op (withRetry p op).2 = .ok v := by
  rw [(withRetry_spec op p).2.2.2.2]
  cases op (withRetry p op).2 with
  | ok w => simp [retryOutcome]
  | error e => cases h : e.isRetryable <;> simp [retryOutcome, h]

theorem le_retryFrom_attempt (fuel a : Nat) : a ≤ (retryFrom op last a fuel).2 := by
  by_cases hd : Decisive (op a)
  · rw [retryFrom_of_decisive op last hd]
  by_cases hl : last ≤ a ∨ fuel = 0
  · rw [retryFrom_of_exhausted op last hd hl]
  obtain ⟨fuel, rfl⟩ : ∃ f, fuel = f + 1 := ⟨fuel - 1, by omega⟩
  rw [retryFrom_of_retry op last hd (by omega)]
  exact Nat.le_of_succ_le (le_retryFrom_attempt fuel (a + 1))

/-- A run reads the operation only at the attempts it makes: an operation that agrees with it
from attempt `a` up to the attempt the run stops at gives the same run. -/
theorem retryFrom_congr {op' : Nat → Except JournalError α} (fuel a : Nat)
    (h : ∀ k, a ≤ k → k ≤ (retryFrom op last a fuel).2 → op' k = op k) :
    retryFrom op' last a fuel = retryFrom op last a fuel := by
  have ha : op' a = op a := h a le_rfl (le_retryFrom_attempt op last fuel a)
  by_cases hd : Decisive (op a)
  · rw [retryFrom_of_decisive op last hd, retryFrom_of_decisive op' last (ha ▸ hd), ha]
  by_cases hl : last ≤ a ∨ fuel = 0
  · rw [retryFrom_of_exhausted op last hd hl, retryFrom_of_exhausted op' last (ha ▸ hd) hl, ha]
  obtain ⟨fuel, rfl⟩ : ∃ f, fuel = f + 1 := ⟨fuel - 1, by omega⟩
  have hr := retryFrom_of_retry op last hd (by omega) fuel
  rw [hr, retryFrom_of_retry op' last (ha ▸ hd) (by omega)]
  rw [hr] at h
  exact retryFrom_congr fuel (a + 1) fun k hk hkn => h k (by omega) hkn

/-- A run under a policy reads the operation only at attempts `1 … n`, `n` the attempt it
stops at. -/
theorem withRetry_congr (p : RetryPolicy) {op' : Nat → Except JournalError α}
    (h : ∀ k, 1 ≤ k → k ≤ (withRetry p op).2 → op' k = op k) :
    withRetry p op' = withRetry p op :=
  retryFrom_congr op _ _ 1 h

/-- A run stops at the first decisive attempt `j` when the policy allows that many attempts,
and at its last allowed attempt otherwise. -/
theorem withRetry_attempts_eq_min (p : RetryPolicy) {j : Nat} (hj : 1 ≤ j)
    (hdj : Decisive (op j)) (hfirst : ∀ k, 1 ≤ k → k < j → ¬ Decisive (op k)) :
    (withRetry p op).2 = min (max p.maxAttempts 1) j := by
  obtain ⟨h1, h2, h3, h4, -⟩ := withRetry_spec op p
  have hle : (withRetry p op).2 ≤ j := by
    by_contra hlt
    exact h3 j hj (by omega) hdj
  rcases Nat.lt_or_ge (withRetry p op).2 (max p.maxAttempts 1) with hM | hM
  · have hge : j ≤ (withRetry p op).2 := by
      by_contra hlt
      exact hfirst _ h1 (by omega) (h4 hM)
    omega
  · omega

theorem withRetry_attempts_of_none_decisive (p : RetryPolicy)
    (hnone : ∀ k, 1 ≤ k → ¬ Decisive (op k)) :
    (withRetry p op).2 = max p.maxAttempts 1 := by
  obtain ⟨h1, h2, -, h4, -⟩ := withRetry_spec op p
  by_contra hne
  exact hnone _ h1 (h4 (by omega))

theorem withRetry_of_decisive (p : RetryPolicy) (hd : Decisive (op (withRetry p op).2)) :
    (withRetry p op).1 = op (withRetry p op).2 := by
  rw [(withRetry_spec op p).2.2.2.2]
  revert hd
  cases op (withRetry p op).2 with
  | ok v => intro; rfl
  | error e => intro hd; simp_all [Decisive, retryOutcome]

/-- A run that stops at an attempt that is not decisive made every attempt the policy allows,
and reports them exhausted with the last error's message. -/
theorem withRetry_of_not_decisive (p : RetryPolicy) (hd : ¬ Decisive (op (withRetry p op).2)) :
    (withRetry p op).2 = max p.maxAttempts 1 ∧
      ∃ e, op (max p.maxAttempts 1) = .error e ∧
        (withRetry p op).1 = .error (.retriesExhausted (max p.maxAttempts 1) e.message) := by
  obtain ⟨-, h2, -, h4, h5⟩ := withRetry_spec op p
  have hn : (withRetry p op).2 = max p.maxAttempts 1 := by
    by_contra hne
    exact hd (h4 (by omega))
  refine ⟨hn, ?_⟩
  rw [h5, ← hn]
  revert hd
  cases op (withRetry p op).2 with
  | ok v => intro hd; exact absurd trivial hd
  | error e =>
    intro hd
    have he : e.isRetryable = true := by simpa [Decisive] using hd
    exact ⟨e, rfl, by simp [retryOutcome, he]⟩

/-- A run never gives a bare conflict: a conflict at the last attempt is reported as the
attempts running out. -/
theorem withRetry_ne_conflict (p : RetryPolicy) (reason : String) :
    (withRetry p op).1 ≠ .error (.conflict reason) := by
  rw [(withRetry_spec op p).2.2.2.2]
  cases op (withRetry p op).2 with
  | ok v => simp [retryOutcome]
  | error e =>
    cases h : e.isRetryable
    · simp only [retryOutcome, h, Bool.false_eq_true, if_false, ne_eq, Except.error.injEq]
      rintro rfl
      simp [JournalError.isRetryable, JournalError.category] at h
    · simp [retryOutcome, h]

end Retries

/-- How a run of retries goes, for every policy and every operation whose `k`th call gives
`op k`. Let `M` be the policy's number of attempts, at least one, and `n` the attempt the run
stops at. Then `n` is `min M j` for the first decisive attempt `j`, and `M` if no attempt is
decisive. The run calls the operation at attempts `1 … n` and at no other, so its result
depends on those calls alone. It gives the `n`th outcome when that is decisive, and otherwise
the exhaustion of all `M` attempts with the `M`th error's message; it never gives a bare
conflict. The attempt counter never passes `M`, so it fits a 32-bit word whenever the policy's
count does. -/
theorem withRetry_stops_at_first_decisive {α : Type} (p : RetryPolicy)
    (op : Nat → Except JournalError α) :
    (∀ j, 1 ≤ j → Decisive (op j) → (∀ k, 1 ≤ k → k < j → ¬ Decisive (op k)) →
      (withRetry p op).2 = min (max p.maxAttempts 1) j) ∧
    ((∀ k, 1 ≤ k → ¬ Decisive (op k)) → (withRetry p op).2 = max p.maxAttempts 1) ∧
    (∀ op' : Nat → Except JournalError α,
      (∀ k, 1 ≤ k → k ≤ (withRetry p op).2 → op' k = op k) → withRetry p op' = withRetry p op) ∧
    (Decisive (op (withRetry p op).2) → (withRetry p op).1 = op (withRetry p op).2) ∧
    (¬ Decisive (op (withRetry p op).2) → ∃ e, op (max p.maxAttempts 1) = .error e ∧
      (withRetry p op).1 = .error (.retriesExhausted (max p.maxAttempts 1) e.message)) ∧
    (∀ reason, (withRetry p op).1 ≠ .error (.conflict reason)) ∧
    1 ≤ (withRetry p op).2 ∧ (withRetry p op).2 ≤ max p.maxAttempts 1 ∧
    (p.maxAttempts < UInt32.size → (withRetry p op).2 < UInt32.size) := by
  obtain ⟨h1, h2, -⟩ := withRetry_spec op p
  refine ⟨fun j hj hdj hfirst => withRetry_attempts_eq_min op p hj hdj hfirst,
    withRetry_attempts_of_none_decisive op p, fun op' h => withRetry_congr op p h,
    withRetry_of_decisive op p, fun hd => (withRetry_of_not_decisive op p hd).2,
    withRetry_ne_conflict op p, h1, h2, fun hM => ?_⟩
  have hsize : 1 < UInt32.size := by decide
  omega

/-! ## The wait between attempts -/

namespace RetryPolicy

variable (p : RetryPolicy)

theorem backoff_eq (r : Nat) :
    p.backoff r = min (p.baseBackoffMs * 2 ^ min (r - 1) 16) p.maxBackoffMs := rfl

theorem backoff_mono : Monotone p.backoff := by
  intro r r' hr
  have hexp : min (r - 1) 16 ≤ min (r' - 1) 16 := by omega
  have hdoubled : p.baseBackoffMs * 2 ^ min (r - 1) 16 ≤ p.baseBackoffMs * 2 ^ min (r' - 1) 16 :=
    Nat.mul_le_mul_left _ (Nat.pow_le_pow_right (by norm_num) hexp)
  rw [backoff_eq, backoff_eq]
  exact min_le_min_right _ hdoubled

theorem backoff_le_max (r : Nat) : p.backoff r ≤ p.maxBackoffMs := by
  rw [backoff_eq]
  exact min_le_right _ _

theorem backoff_of_le_one {r : Nat} (hr : r ≤ 1) :
    p.backoff r = min p.baseBackoffMs p.maxBackoffMs := by
  rw [backoff_eq, show min (r - 1) 16 = 0 by omega, pow_zero, mul_one]

/-- Saturating the doubled wait at a bound not below the cap changes nothing: the cap is met
first. -/
theorem backoff_saturated {bound : Nat} (hbound : p.maxBackoffMs ≤ bound) (r : Nat) :
    min (min (p.baseBackoffMs * 2 ^ min (r - 1) 16) bound) p.maxBackoffMs = p.backoff r := by
  rw [backoff_eq, min_assoc, min_eq_right hbound]

end RetryPolicy

/-- The wait before retry `r` is the first wait doubled `min (r - 1) 16` times, capped at the
longest wait, where the doubling may saturate at any bound not below the cap, such as the
greatest duration. The wait never decreases from one retry to the next, never passes the cap,
and before retries 0 and 1 it is the smaller of the first and the longest wait. -/
theorem backoff_capped_doubling (p : RetryPolicy) :
    (∀ bound, p.maxBackoffMs ≤ bound → ∀ r,
      p.backoff r = min (min (p.baseBackoffMs * 2 ^ min (r - 1) 16) bound) p.maxBackoffMs) ∧
    Monotone p.backoff ∧ (∀ r, p.backoff r ≤ p.maxBackoffMs) ∧
    p.backoff 0 = min p.baseBackoffMs p.maxBackoffMs ∧
    p.backoff 1 = min p.baseBackoffMs p.maxBackoffMs :=
  ⟨fun _ hbound r => (p.backoff_saturated hbound r).symm, p.backoff_mono, p.backoff_le_max,
    p.backoff_of_le_one (by norm_num), p.backoff_of_le_one le_rfl⟩

example : [1, 2, 3, 10].map RetryPolicy.default.backoff = [25, 50, 100, 500] := by decide

end ForexJournal
