import Mathlib
import ForexJournal.Proofs.DecimalRounding
import ForexJournal.Cli.Run

/-!
# What a checked configuration hands on

The configuration is checked and read by two separate passes over the same keys, each with its
own defaults. Checking first guarantees what building the settings needs: a slippage that is
present reads as a decimal, so the default is taken only for a missing or blank one, and it is
positive; the deadline is positive; there is at least one attempt and the first backoff is not
above the longest (`JournalSettings.Checked`, `checked_of_validate`).

Two values go on to the database file, and the check bounds neither from above. The deadline
becomes the connection's busy timeout unchanged, so it leaves the connection's range exactly
when the configured deadline passes `2 ^ 31 - 1` ms. The pool size is raised to at least one
before it is cut to 32 bits, so a configured size that is a positive multiple of `2 ^ 32`
gives an empty pool.
-/

namespace ForexJournal

namespace Ini

variable {ini : Ini} {sec key raw : String} {default d : Decimal}

theorem getDecimal_of_getString (h : ini.getString sec key = some raw)
    (hd : Decimal.parse? (trimBlank raw) = some d) : ini.getDecimal sec key default = d := by
  simp [getDecimal, h, hd]

theorem getDecimal_of_none (h : ini.getString sec key = none) :
    ini.getDecimal sec key default = default := by
  simp [getDecimal, h]

end Ini

/-! ## The checks one by one -/

section Checks

variable {ini : Ini}

/-- The slippage check: a value that is present reads as a decimal, and the slippage read with
its default is positive. -/
theorem validateSlippage_eq_ok : validateSlippage ini = .ok () ↔
    (∀ raw, ini.getString "journal" "max_entry_slippage_pips" = some raw →
      (Decimal.parse? (trimBlank raw)).isSome) ∧
    0 < (ini.getDecimal "journal" "max_entry_slippage_pips" defaultMaxEntrySlippagePips).val := by
  rw [← Decimal.isNonPositive_eq_false]
  cases hs : ini.getString "journal" "max_entry_slippage_pips" with
  | none =>
    simp only [validateSlippage, hs, pure, Except.pure]
    split <;> simp_all [throw, throwThe, MonadExceptOf.throw]
  | some raw =>
    cases hp : Decimal.parse? (trimBlank raw) <;>
      simp only [validateSlippage, hs, hp, Option.isNone_none, Option.isNone_some, bind,
        Except.bind, pure, Except.pure, if_true, if_false, Bool.false_eq_true] <;>
      split <;> simp_all [throw, throwThe, MonadExceptOf.throw]

theorem validateTimeout_eq_ok : validateTimeout ini = .ok () ↔
    0 < ini.getInt "journal" "transaction_timeout_ms" defaultTransactionTimeoutMs := by
  unfold validateTimeout
  split <;> simp_all

/-- The retry check: at least one attempt, a first backoff that is not negative, and a longest
backoff not below it. -/
theorem validateRetry_eq_ok : validateRetry ini = .ok () ↔
    1 ≤ ini.getInt "retry" "max_attempts" defaultRetryMaxAttempts ∧
    0 ≤ ini.getInt "retry" "base_backoff_ms" defaultRetryBaseBackoffMs ∧
    ini.getInt "retry" "base_backoff_ms" defaultRetryBaseBackoffMs ≤
      ini.getInt "retry" "max_backoff_ms" defaultRetryMaxBackoffMs := by
  simp only [validateRetry, bind, Except.bind, pure, Except.pure]
  split_ifs <;> simp_all

theorem validateJournalConfig_eq_ok : validateJournalConfig ini = .ok () ↔
    validateBackend ini = .ok () ∧ validateSlippage ini = .ok () ∧
      validateTimeout ini = .ok () ∧ validateRetry ini = .ok () := by
  simp only [validateJournalConfig, bind, Except.bind]
  cases validateBackend ini <;> cases validateSlippage ini <;> cases validateTimeout ini <;>
    cases validateRetry ini <;> simp

end Checks

/-! ## The settings of a checked configuration -/

/-- What a checked configuration gives the journal: a positive slippage that is the configured
decimal, read after trimming, or the default when none is configured; at least one attempt; a
first backoff not above the longest; and a positive deadline that is the configured one. -/
structure JournalSettings.Checked (ini : Ini) (st : JournalSettings) : Prop where
  slippage_pos : 0 < st.maxEntrySlippagePips.val
  slippage_configured : ∀ raw, ini.getString "journal" "max_entry_slippage_pips" = some raw →
    Decimal.parse? (trimBlank raw) = some st.maxEntrySlippagePips
  slippage_default : ini.getString "journal" "max_entry_slippage_pips" = none →
    st.maxEntrySlippagePips = defaultMaxEntrySlippagePips
  attempts_pos : 1 ≤ st.retry.maxAttempts
  backoff_le : st.retry.baseBackoffMs ≤ st.retry.maxBackoffMs
  timeout_pos : 1 ≤ st.transactionTimeoutMs
  timeout_configured : (st.transactionTimeoutMs : Int) =
    ini.getInt "journal" "transaction_timeout_ms" defaultTransactionTimeoutMs

theorem checked_of_validate {ini : Ini} (h : validateJournalConfig ini = .ok ()) :
    (buildJournalSettings ini).Checked ini := by
  obtain ⟨-, hslip, htime, hretry⟩ := validateJournalConfig_eq_ok.1 h
  obtain ⟨hparses, hpos⟩ := validateSlippage_eq_ok.1 hslip
  have ht := validateTimeout_eq_ok.1 htime
  obtain ⟨ha, hb, hm⟩ := validateRetry_eq_ok.1 hretry
  refine ⟨hpos, fun raw hraw => ?_, Ini.getDecimal_of_none, by simp [buildJournalSettings],
    by simp only [buildJournalSettings]; omega, by simp only [buildJournalSettings]; omega,
    by simp only [buildJournalSettings]; omega⟩
  obtain ⟨d, hd⟩ := Option.isSome_iff_exists.1 (hparses raw hraw)
  rw [hd, buildJournalSettings, Ini.getDecimal_of_getString hraw hd]

/-! ## The values the database file takes -/

/-- The busy timeout is the deadline, so it is in the connection's range exactly when the
configured deadline is at most `2 ^ 31 - 1` ms. -/
theorem busyTimeout_in_range_iff {ini : Ini} (h : validateJournalConfig ini = .ok ()) :
    (buildJournalSettings ini).transactionTimeoutMs ≤ Store.maxBusyTimeoutMs ↔
      ini.getInt "journal" "transaction_timeout_ms" defaultTransactionTimeoutMs ≤ 2147483647 := by
  have := (checked_of_validate h).timeout_configured
  simp only [Store.maxBusyTimeoutMs]
  omega

/-- The pool is empty exactly when the configured size is a positive multiple of `2 ^ 32`:
raising it to one first does not keep the cut from reaching zero. -/
theorem sqlitePoolSize_eq_zero_iff (ini : Ini) : Cli.sqlitePoolSize ini = 0 ↔
    ∃ k : Int, 0 < k ∧ ini.getInt "sqlite" "pool_size" 4 = 4294967296 * k := by
  unfold Cli.sqlitePoolSize
  constructor
  · intro h
    refine ⟨(max 1 (ini.getInt "sqlite" "pool_size" 4)) / 4294967296, by omega, by omega⟩
  · rintro ⟨k, hk, he⟩
    rw [he]
    omega

/-- A checked configuration gives the journal checked settings; the busy timeout handed to the
database file is in range exactly when the configured deadline is at most `2 ^ 31 - 1` ms, and
its pool has a connection exactly when the configured size is no positive multiple of
`2 ^ 32`. -/
theorem checked_settings_ranges {ini : Ini} (h : validateJournalConfig ini = .ok ()) :
    (buildJournalSettings ini).Checked ini ∧
    ((buildJournalSettings ini).transactionTimeoutMs ≤ Store.maxBusyTimeoutMs ↔
      ini.getInt "journal" "transaction_timeout_ms" defaultTransactionTimeoutMs ≤ 2147483647) ∧
    (0 < Cli.sqlitePoolSize ini ↔
      ¬ ∃ k : Int, 0 < k ∧ ini.getInt "sqlite" "pool_size" 4 = 4294967296 * k) := by
  refine ⟨checked_of_validate h, busyTimeout_in_range_iff h, ?_⟩
  rw [Nat.pos_iff_ne_zero, Ne, sqlitePoolSize_eq_zero_iff]

/-- A document with a deadline of `2 ^ 31` ms and a pool of `2 ^ 32` connections, as
`[journal] transaction_timeout_ms = 2147483648` and `[sqlite] pool_size = 4294967296` read. -/
def outOfRangeConfig : Ini :=
  ⟨[("journal", [("transaction_timeout_ms", some "2147483648")]),
    ("sqlite", [("path", some "j.db"), ("pool_size", some "4294967296")])]⟩

theorem checked_settings_ranges_out_of_range :
    validateJournalConfig outOfRangeConfig = .ok () ∧
    (buildJournalSettings outOfRangeConfig).Checked outOfRangeConfig ∧
    ((buildJournalSettings outOfRangeConfig).transactionTimeoutMs ≤ Store.maxBusyTimeoutMs ↔
      outOfRangeConfig.getInt "journal" "transaction_timeout_ms" defaultTransactionTimeoutMs ≤
        2147483647) ∧
    (0 < Cli.sqlitePoolSize outOfRangeConfig ↔
      ¬ ∃ k : Int, 0 < k ∧ outOfRangeConfig.getInt "sqlite" "pool_size" 4 = 4294967296 * k) :=
  ⟨by rfl, checked_settings_ranges (by rfl)⟩

/-- The check passes a deadline past the busy timeout's range and a pool size that is cut to
zero. -/
theorem check_passes_out_of_range_values :
    validateJournalConfig outOfRangeConfig = .ok () ∧
    Store.maxBusyTimeoutMs < (buildJournalSettings outOfRangeConfig).transactionTimeoutMs ∧
    Cli.sqlitePoolSize outOfRangeConfig = 0 :=
  ⟨by rfl, by decide, by decide⟩

end ForexJournal
