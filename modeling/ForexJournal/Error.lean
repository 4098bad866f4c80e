import ForexJournal.Decimal.Text
import ForexJournal.Trade.Basic
import ForexJournal.Uuid
import ForexJournal.Json

/-!
# Errors

Every failure of the library is one `JournalError`. Its message is written in one place,
`JournalError.message`; its category (`ErrorCategory`) says whether a caller may retry, and
the command line turns it into an exit code.
-/

namespace ForexJournal

/-- A failure, by cause. -/
inductive JournalError where
  | geometry (reason : String)
  | riskExceeded (reason : String)
  | invalidInput (field reason : String)
  | invalidTransition (index : Nat) (state : TradeState) (event : ExecutionKind)
  | prematureExecution (event : ExecutionKind)
  | sizeMismatch (reason : String)
  | slippageExceeded (slippagePips maxPips : Decimal)
  | terminalTrade (state : TradeState)
  | hasExecutions (count : Nat)
  | duplicateTrade (bias : Bias) (existing : Uuid)
  | unknownRule (code : String)
  | notFound (entity id : String)
  | conflict (reason : String)
  | retriesExhausted (attempts : Nat) (reason : String)
  | timeout (timeoutMs : Nat)
  | database (reason : String)
  | databaseQuery (reason : String)
  | configParse (file reason : String)
  | configMissing (group key : String)
  | configInvalid (group key reason : String)
  | importFailed (reason : String)
  | io (message : String)
  deriving DecidableEq

/-- The broad category of a failure. -/
inductive ErrorCategory where
  | validation
  | conflict
  | notFound
  | timeout
  | infrastructure
  deriving DecidableEq, Repr

/-- The text of a category. -/
def ErrorCategory.name : ErrorCategory → String
  | .validation => "validation"
  | .conflict => "conflict"
  | .notFound => "not_found"
  | .timeout => "timeout"
  | .infrastructure => "infrastructure"

namespace JournalError

def invalid (field reason : String) : JournalError := .invalidInput field reason

/-- The message of a failure. -/
def message : JournalError → String
  | .geometry r => "invalid geometry: " ++ r
  | .riskExceeded r => "risk exceeded: " ++ r
  | .invalidInput f r => "invalid " ++ f ++ ": " ++ r
  | .invalidTransition i s e =>
    "invalid execution sequence at index " ++ toString i ++ ": cannot " ++ e.name ++
      " from " ++ s.name ++ " state"
  | .prematureExecution e => e.name ++ " recorded before entry"
  | .sizeMismatch r => "size mismatch: " ++ r
  | .slippageExceeded s m =>
    "entry slippage " ++ s.toText ++ " pips exceeds max " ++ m.toText ++ " pips"
  | .terminalTrade s => "trade is " ++ s.name ++ " and accepts no executions"
  | .hasExecutions n => "trade already has " ++ toString n ++ " execution(s)"
  | .duplicateTrade b u =>
    "account already has a " ++ b.name ++ " trade " ++ u.toText ++ " on this candle"
  | .unknownRule c => "unknown rule: " ++ c
  | .notFound e i => e ++ " not found: " ++ i
  | .conflict r => "transaction conflict: " ++ r
  | .retriesExhausted n r =>
    "transaction conflict persisted after " ++ toString n ++ " attempts: " ++ r
  | .timeout ms => "transaction exceeded its " ++ toString ms ++ " ms deadline"
  | .database r => "database error: " ++ r
  | .databaseQuery r => "database query error: " ++ r
  | .configParse f r => "config parse error in " ++ f ++ ": " ++ r
  | .configMissing g k => "missing config key [" ++ g ++ "] " ++ k
  | .configInvalid g k r => "invalid config value [" ++ g ++ "] " ++ k ++ ": " ++ r
  | .importFailed r => "import error: " ++ r
  | .io m => m

/-- The name of the failure's cause. -/
def causeName : JournalError → String
  | .geometry _ => "Geometry"
  | .riskExceeded _ => "RiskExceeded"
  | .invalidInput .. => "InvalidInput"
  | .invalidTransition .. => "InvalidTransition"
  | .prematureExecution _ => "PrematureExecution"
  | .sizeMismatch _ => "SizeMismatch"
  | .slippageExceeded .. => "SlippageExceeded"
  | .terminalTrade _ => "TerminalTrade"
  | .hasExecutions _ => "HasExecutions"
  | .duplicateTrade .. => "DuplicateTrade"
  | .unknownRule _ => "UnknownRule"
  | .notFound .. => "NotFound"
  | .conflict _ => "Conflict"
  | .retriesExhausted .. => "RetriesExhausted"
  | .timeout _ => "Timeout"
  | .database _ => "Database"
  | .databaseQuery _ => "DatabaseQuery"
  | .configParse .. => "ConfigParse"
  | .configMissing .. => "ConfigMissing"
  | .configInvalid .. => "ConfigInvalid"
  | .importFailed _ => "Import"
  | .io _ => "Io"

/-- The category of a failure. -/
def category : JournalError → ErrorCategory
  | .geometry _ | .riskExceeded _ | .invalidInput .. | .invalidTransition .. |
    .prematureExecution _ | .sizeMismatch _ | .slippageExceeded .. | .terminalTrade _ |
    .hasExecutions _ | .duplicateTrade .. | .unknownRule _ => .validation
  | .notFound .. => .notFound
  | .conflict _ | .retriesExhausted .. => .conflict
  | .timeout _ => .timeout
  | .database _ | .databaseQuery _ | .configParse .. | .configMissing .. |
    .configInvalid .. | .importFailed _ | .io _ => .infrastructure

def isRetryable (e : JournalError) : Bool := e.category == .conflict

/-- The exit code of the command line for a failure. -/
def exitCode (e : JournalError) : Nat :=
  match e with
  | .configParse .. | .configMissing .. | .configInvalid .. => 2
  | .database _ | .databaseQuery _ => 3
  | _ =>
    match e.category with
    | .validation => 4
    | .notFound => 5
    | .conflict | .timeout => 6
    | .infrastructure => 1

/-- The error as a JSON object: its cause and its message. -/
def toJson (e : JournalError) : Json := .obj [("error", .str e.causeName), ("message", .str e.message)]

end JournalError

end ForexJournal
