import ForexJournal.Config.Ini
import ForexJournal.Decimal.Text
import ForexJournal.Retry
import ForexJournal.Instrument

/-!
# Journal settings

The journal reads its settings from an INI document: the largest entry slippage in pips
(`[journal] max_entry_slippage_pips`, default 20), the transaction deadline
(`[journal] transaction_timeout_ms`, default 5000) and the retry policy (`[retry]
max_attempts`, `base_backoff_ms`, `max_backoff_ms`, defaults 3, 25 and 500). A blank value
counts as missing. An integer that does not read as a signed 64-bit number counts as missing
too, while a slippage that is present but not a decimal is refused.

Validation checks, in order, the backend name, the slippage, the deadline and the retry
figures, and reports the first broken rule. Building the settings never fails: negative
times become 0 and the number of attempts is brought into `1 .. 2 ^ 32 - 1`.
-/

namespace ForexJournal

namespace Ini

def getString (ini : Ini) (sec key : String) : Option String :=
  (ini.get sec key).filter fun v => !(trimBlank v).isEmpty

/-- An integer value, or the default when it is missing or not an integer. -/
def getInt (ini : Ini) (sec key : String) (default : Int) : Int :=
  ((ini.get sec key).bind parseInt64?).getD default

/-- A decimal value, or the default when it is missing or not a decimal. -/
def getDecimal (ini : Ini) (sec key : String) (default : Decimal) : Decimal :=
  ((ini.getString sec key).bind fun v => Decimal.parse? (trimBlank v)).getD default

end Ini

def defaultTransactionTimeoutMs : Int := 5000

def defaultRetryMaxAttempts : Int := 3

def defaultRetryBaseBackoffMs : Int := 25

def defaultRetryMaxBackoffMs : Int := 500

def configInvalid (sec key reason : String) : JournalError := .configInvalid sec key reason

/-- The backend, when named, is `sqlite` or `postgres`. -/
def validateBackend (ini : Ini) : Except JournalError Unit :=
  match ini.getString "database" "backend" with
  | none => .ok ()
  | some b =>
    if b = "sqlite" ∨ b = "postgres" then .ok ()
    else .error (configInvalid "database" "backend" "backend must be 'sqlite' or 'postgres'")

/-- The slippage, when given, is a decimal, and it is positive. -/
def validateSlippage (ini : Ini) : Except JournalError Unit := do
  let key := "max_entry_slippage_pips"
  if let some raw := ini.getString "journal" key then
    if (Decimal.parse? (trimBlank raw)).isNone then
      throw (configInvalid "journal" key "max_entry_slippage_pips must be a decimal number")
  if (ini.getDecimal "journal" key defaultMaxEntrySlippagePips).isNonPositive then
    throw (configInvalid "journal" key "max_entry_slippage_pips must be positive")

/-- The deadline is positive. -/
def validateTimeout (ini : Ini) : Except JournalError Unit :=
  if ini.getInt "journal" "transaction_timeout_ms" defaultTransactionTimeoutMs ≤ 0 then
    .error (configInvalid "journal" "transaction_timeout_ms"
      "transaction_timeout_ms must be positive")
  else .ok ()

/-- At least one attempt, a non-negative first backoff, and a longest backoff not below it. -/
def validateRetry (ini : Ini) : Except JournalError Unit := do
  if ini.getInt "retry" "max_attempts" defaultRetryMaxAttempts < 1 then
    throw (configInvalid "retry" "max_attempts" "max_attempts must be at least 1")
  let base := ini.getInt "retry" "base_backoff_ms" defaultRetryBaseBackoffMs
  if base < 0 then
    throw (configInvalid "retry" "base_backoff_ms" "base_backoff_ms must be non-negative")
  if ini.getInt "retry" "max_backoff_ms" defaultRetryMaxBackoffMs < base then
    throw (configInvalid "retry" "max_backoff_ms"
      "max_backoff_ms must not be below base_backoff_ms")

/-- Checks every setting, reporting the first broken rule. -/
def validateJournalConfig (ini : Ini) : Except JournalError Unit := do
  validateBackend ini
  validateSlippage ini
  validateTimeout ini
  validateRetry ini

/-- What the journal needs to know to record executions. -/
structure JournalSettings where
  maxEntrySlippagePips : Decimal
  transactionTimeoutMs : Nat
  retry : RetryPolicy

def JournalSettings.default : JournalSettings :=
  ⟨defaultMaxEntrySlippagePips, 5000, RetryPolicy.default⟩

/-- The settings of a document (see the module note for the defaults). -/
def buildJournalSettings (ini : Ini) : JournalSettings :=
  let millis (sec key : String) (default : Int) : Nat := (ini.getInt sec key default).toNat
  let attempts := ini.getInt "retry" "max_attempts" defaultRetryMaxAttempts
  ⟨ini.getDecimal "journal" "max_entry_slippage_pips" defaultMaxEntrySlippagePips,
    millis "journal" "transaction_timeout_ms" defaultTransactionTimeoutMs,
    ⟨(max 1 (min attempts 4294967295)).toNat, millis "retry" "base_backoff_ms" defaultRetryBaseBackoffMs,
      millis "retry" "max_backoff_ms" defaultRetryMaxBackoffMs⟩⟩

end ForexJournal
