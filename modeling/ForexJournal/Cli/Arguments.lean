import ForexJournal.Cli.Command
import ForexJournal.Decimal.Text
import ForexJournal.Instrument

/-!
# Reading the command line

The first word names the subcommand; the words after it are its options, each `--name value`,
`--name=value`, or for the options with a letter `-c value`, `-cvalue` and `-c=value`.
Options are read left to right with these rules, which decide which of two faults is
reported:

* a word starting with `-` is always an option, so a value cannot start with `-`; an unknown
  option is reported at once;
* an option's value is checked when the next known option is met, or at the end: first that
  it has a value, then that the option was not given before, then that the value reads;
* a word that is no option and no awaited value is unexpected;
* at the end, every required option must have been given; the others take their defaults.

A failure is reported with its kind, named as the command-line conventions name it, and the
line that begins its message.
-/

namespace ForexJournal

/-- The kinds of failure in reading a command line. -/
inductive ArgErrorKind where
  | missingRequiredArgument
  | valueValidation
  | unknownArgument
  | invalidSubcommand
  | displayHelpOnMissingArgumentOrSubcommand
  | invalidValue
  | argumentConflict
  | tooManyValues
  | displayHelp
  deriving DecidableEq, Repr

/-- The name of a kind of failure. -/
def ArgErrorKind.name : ArgErrorKind → String
  | .missingRequiredArgument => "MissingRequiredArgument"
  | .valueValidation => "ValueValidation"
  | .unknownArgument => "UnknownArgument"
  | .invalidSubcommand => "InvalidSubcommand"
  | .displayHelpOnMissingArgumentOrSubcommand => "DisplayHelpOnMissingArgumentOrSubcommand"
  | .invalidValue => "InvalidValue"
  | .argumentConflict => "ArgumentConflict"
  | .tooManyValues => "TooManyValues"
  | .displayHelp => "DisplayHelp"

/-- A command line that was not read: the kind of failure and the first line of its message
(empty when the failure is a request for help). -/
structure ArgError where
  kind : ArgErrorKind
  line : String

/-- The exit code of a command line that was not read: help asked for succeeds. -/
def ArgError.exitCode (e : ArgError) : Nat := if e.kind == .displayHelp then 0 else 2

/-- What an option's value is read as. -/
inductive ValueKind where
  | path
  | text
  | decimal
  | count
  | uuid
  | timeframe
  | bias
  | executionKind
  | marker
  | instant
  deriving DecidableEq, Repr

/-- An option's value, read. -/
inductive ArgValue where
  | text (s : String)
  | decimal (d : Decimal)
  | count (n : Nat)
  | uuid (u : Uuid)
  | timeframe (t : Timeframe)
  | bias (b : Bias)
  | executionKind (k : ExecutionKind)
  | marker (m : TerminalMarker)
  | instant (t : Instant)

/-- Why a value was refused: it is empty where one is required, it does not read, or it
reads but lies outside the accepted range (messages then show the value as read). -/
inductive ValueRefusal where
  | empty
  | invalid (reason : String)
  | outside (shown reason : String)

/-- Reads a signed 64-bit integer: an optional sign, then decimal digits taken from the left;
the first character that is not a digit, or the first digit that leaves the range, is the
error. -/
def readWhole (s : String) : Except String Int :=
  let (negative, ds) := match s.toList with
    | '+' :: rest => (false, rest)
    | '-' :: rest => (true, rest)
    | cs => (false, cs)
  let limit : Nat := if negative then 9223372036854775808 else 9223372036854775807
  let step (acc : Nat) (c : Char) : Except String Nat :=
    if !c.isDigit then .error "invalid digit found in string"
    else
      let n := acc * 10 + (c.toNat - 48)
      if limit < n then
        .error (if negative then "number too small to fit in target type"
          else "number too large to fit in target type")
      else .ok n
  if s.isEmpty then .error "cannot parse integer from empty string"
  else if ds.isEmpty then .error "invalid digit found in string"
  else do
    let n ← ds.foldlM step 0
    return if negative then -(n : Int) else n

/-- Reads an unsigned 32-bit count: a signed 64-bit integer that must lie in
`0..=4294967295`. -/
def readCount (s : String) : Except ValueRefusal Nat :=
  match readWhole s with
  | .error r => .error (.invalid r)
  | .ok v =>
    if 0 ≤ v ∧ v < 4294967296 then .ok v.toNat
    else .error (.outside (toString v) (toString v ++ " is not in 0..=4294967295"))

/-- Reads a value of a kind. -/
def ValueKind.read (k : ValueKind) (s : String) : Except ValueRefusal ArgValue :=
  let reason {α : Type} (r : Except String α) (f : α → ArgValue) : Except ValueRefusal ArgValue :=
    match r with
    | .ok a => .ok (f a)
    | .error m => .error (.invalid m)
  let domain {α : Type} (r : Except JournalError α) (f : α → ArgValue) :=
    reason (r.mapError (·.message)) f
  match k with
  | .path => if s.isEmpty then .error .empty else .ok (.text s)
  | .text => .ok (.text s)
  | .decimal => reason (Decimal.parse s) .decimal
  | .count => (readCount s).map .count
  | .uuid => reason (Uuid.parse s) .uuid
  | .timeframe => domain (Timeframe.parse s) .timeframe
  | .bias => domain (Bias.parse s) .bias
  | .executionKind => domain (ExecutionKind.parse s) .executionKind
  | .marker => domain (TerminalMarker.parse s) .marker
  | .instant => reason ((readInstantText s).mapError (·.message)) .instant

/-- An option of a subcommand. -/
structure OptionSpec where
  long : String
  short : Option Char
  kind : ValueKind
  required : Bool
  default : Option String

namespace OptionSpec

def display (o : OptionSpec) : String :=
  "--" ++ o.long ++ " <" ++ (o.long.map fun c => if c == '-' then '_' else c.toUpper) ++ ">"

def needed (long : String) (kind : ValueKind) : OptionSpec := ⟨long, none, kind, true, none⟩

def withDefault (long : String) (kind : ValueKind) (d : String) : OptionSpec :=
  ⟨long, none, kind, false, some d⟩

def optional (long : String) (kind : ValueKind) : OptionSpec := ⟨long, none, kind, false, none⟩

def config : OptionSpec := ⟨"config", some 'c', .path, true, none⟩

def series : List OptionSpec :=
  [withDefault "symbol" .text symbolEurUsd, withDefault "timeframe" .timeframe "W1"]

end OptionSpec

open OptionSpec in
/-- The subcommands and their options. -/
def subcommands : List (String × List OptionSpec) :=
  [("init-db", [config]),
   ("import-candles", [config, ⟨"file", some 'f', .path, true, none⟩] ++ series),
   ("backfill-indicators", config :: series),
   ("evaluate", [config, optional "candle" .uuid] ++ series),
   ("add-account", [config, needed "name" .text, needed "balance" .decimal,
     needed "leverage" .count, needed "max-risk-pct" .decimal, withDefault "timezone" .text "UTC"]),
   ("plan-trade", [config, needed "account" .uuid, needed "candle" .uuid, needed "bias" .bias,
     needed "entry" .decimal, needed "sl" .decimal, needed "tp" .decimal,
     needed "risk-pct" .decimal, needed "reason" .text]),
   ("record", [config, needed "trade" .uuid, needed "kind" .executionKind,
     needed "price" .decimal, needed "size" .decimal, optional "reason" .text,
     optional "at" .instant]),
   ("terminate", [config, needed "trade" .uuid, needed "marker" .marker, needed "reason" .text]),
   ("status", [config, needed "trade" .uuid]),
   ("sessions", [needed "at" .instant])]

abbrev ArgValues := List (String × ArgValue)

namespace Arguments

def failure {α : Type} (kind : ArgErrorKind) (line : String) : Except ArgError α :=
  .error ⟨kind, line⟩

/-- The failure for a value given to the help flag, which takes none. -/
def helpValue {α : Type} (value : String) : Except ArgError α :=
  failure .tooManyValues
    ("error: unexpected value '" ++ value ++ "' for '--help' found; no more were expected")

def unexpected {α : Type} (word : String) : Except ArgError α :=
  failure .unknownArgument ("error: unexpected argument '" ++ word ++ "' found")

/-- An option waiting for its value to be checked: the option and its value, if one came. -/
abbrev Pending := Option (OptionSpec × Option String)

/-- Checks a pending option's value and records it. -/
def settle (seen : ArgValues) : Pending → Except ArgError ArgValues
  | none => .ok seen
  | some (o, value) =>
    let required := "error: a value is required for '" ++ o.display ++ "' but none was supplied"
    match value with
    | none => failure .invalidValue required
    | some v =>
      if seen.any (·.1 == o.long) then
        failure .argumentConflict
          ("error: the argument '" ++ o.display ++ "' cannot be used multiple times")
      else
        match o.kind.read v with
        | .ok a => .ok (seen ++ [(o.long, a)])
        | .error .empty => failure .invalidValue required
        | .error (.invalid r) =>
          failure .valueValidation
            ("error: invalid value '" ++ v ++ "' for '" ++ o.display ++ "': " ++ r)
        | .error (.outside shown r) =>
          failure .valueValidation
            ("error: invalid value '" ++ shown ++ "' for '" ++ o.display ++ "': " ++ r)

/-- Meets a known option, with the value attached to it if any: the pending one is settled
first, and the option then waits for its value or is settled with the attached one. -/
def meet (seen : ArgValues) (pending : Pending) (o : OptionSpec) (attached : Option String) :
    Except ArgError (ArgValues × Pending) := do
  let seen ← settle seen pending
  match attached with
  | some v => return (← settle seen (some (o, some v)), none)
  | none => return (seen, some (o, none))

/-- Reads the words after a subcommand; `escaped` says a `--` was met, after which every word
is unexpected. -/
def readOptions (specs : List OptionSpec) (seen : ArgValues) (pending : Pending) (escaped : Bool) :
    List String → Except ArgError (ArgValues × Pending)
  | [] => .ok (seen, pending)
  | w :: rest =>
    if escaped then unexpected w
    else if w == "--" then readOptions specs seen pending true rest
    else if w.startsWith "--" then
      let body := (w.drop 2).toString
      let (name, attached) := match body.splitOn "=" with
        | [n] => (n, none)
        | n :: vs => (n, some ("=".intercalate vs))
        | [] => (body, none)
      if name == "help" then
        match attached with
        | some v => helpValue v
        | none => do
          let _ ← settle seen pending
          failure .displayHelp ""
      else
        match specs.find? (·.long == name) with
        | none => unexpected ("--" ++ name)
        | some o => do
          let (seen, pending) ← meet seen pending o attached
          readOptions specs seen pending false rest
    else if w.startsWith "-" && w.length ≥ 2 then
      let c := w.toList.getD 1 ' '
      let tail := w.toList.drop 2
      if c == 'h' then do
        let _ ← settle seen pending
        failure .displayHelp ""
      else
        match specs.find? (·.short == some c) with
        | none => unexpected ("-" ++ String.singleton c)
        | some o => do
          let attached := match tail with
            | [] => none
            | '=' :: v => some (String.ofList v)
            | v => some (String.ofList v)
          let (seen, pending) ← meet seen pending o attached
          readOptions specs seen pending false rest
    else
      match pending with
      | some (o, none) => readOptions specs seen (some (o, some w)) false rest
      | _ => unexpected w

/-- Reads a subcommand's words into option values, with defaults for the options left out. -/
def readSubcommand (specs : List OptionSpec) (words : List String) : Except ArgError ArgValues := do
  let (seen, pending) ← readOptions specs [] none false words
  let seen ← settle seen pending
  if specs.any (fun o => o.required && !seen.any (·.1 == o.long)) then
    failure .missingRequiredArgument "error: the following required arguments were not provided:"
  else
    return specs.foldl (fun acc o =>
      if acc.any (·.1 == o.long) then acc
      else
        match o.default with
        | some d =>
          match o.kind.read d with
          | .ok v => acc ++ [(o.long, v)]
          | .error _ => acc
        | none => acc) seen

/-- Reads the value of an option as text. -/
def text (vs : ArgValues) (k : String) : String :=
  match vs.lookup k with
  | some (.text s) => s
  | _ => ""

/-- Reads the value of an option as a decimal. -/
def decimal (vs : ArgValues) (k : String) : Decimal :=
  match vs.lookup k with
  | some (.decimal d) => d
  | _ => Decimal.zero

/-- Reads the value of an option as an identifier, if given. -/
def uuid? (vs : ArgValues) (k : String) : Option Uuid :=
  match vs.lookup k with
  | some (.uuid u) => some u
  | _ => none

/-- Reads the value of an option as an instant, if given. -/
def instant? (vs : ArgValues) (k : String) : Option Instant :=
  match vs.lookup k with
  | some (.instant t) => some t
  | _ => none

/-- The series the options name. -/
def series (vs : ArgValues) : Series :=
  ⟨text vs "symbol", match vs.lookup "timeframe" with
    | some (.timeframe t) => t
    | _ => .weekly⟩

/-- Builds the command of a subcommand from its option values. -/
def build (sub : String) (vs : ArgValues) : Command :=
  let config := text vs "config"
  let uuid (k : String) := (uuid? vs k).getD Uuid.nil
  match sub with
  | "import-candles" => .importCandles config (text vs "file") (series vs)
  | "backfill-indicators" => .backfillIndicators config (series vs)
  | "evaluate" => .evaluate config (uuid? vs "candle") (series vs)
  | "add-account" =>
    let leverage := match vs.lookup "leverage" with
      | some (.count n) => n
      | _ => 0
    .addAccount config ⟨text vs "name", decimal vs "balance", leverage, decimal vs "max-risk-pct",
      text vs "timezone"⟩
  | "plan-trade" =>
    let bias := match vs.lookup "bias" with
      | some (.bias b) => b
      | _ => .long
    .planTrade config ⟨uuid "account", uuid "candle", bias, decimal vs "entry", decimal vs "sl",
      decimal vs "tp", decimal vs "risk-pct", text vs "reason"⟩
  | "record" =>
    let kind := match vs.lookup "kind" with
      | some (.executionKind k) => k
      | _ => .entry
    let reason := match vs.lookup "reason" with
      | some (.text s) => some s
      | _ => none
    .record config (uuid "trade") kind (decimal vs "price") (decimal vs "size") reason
      (instant? vs "at")
  | "terminate" =>
    let marker := match vs.lookup "marker" with
      | some (.marker m) => m
      | _ => .cancelled
    .terminate config (uuid "trade") marker (text vs "reason")
  | "status" => .status config (uuid "trade")
  | "sessions" => .sessions ((instant? vs "at").getD Instant.epoch)
  | _ => .initDb config

end Arguments

/-- Reads a command line, without the program's name (see the module note). -/
def readCommand : List String → Except ArgError Command
  | [] => Arguments.failure .displayHelpOnMissingArgumentOrSubcommand ""
  | w :: rest =>
    let unrecognized (s : String) : Except ArgError Command :=
      Arguments.failure .invalidSubcommand ("error: unrecognized subcommand '" ++ s ++ "'")
    if w == "--help" || w == "-h" then Arguments.failure .displayHelp ""
    else if w.startsWith "--help=" then Arguments.helpValue (w.drop 7).toString
    else if w == "help" then
      match rest with
      | [] => Arguments.failure .displayHelp ""
      | s :: more =>
        if subcommands.any (·.1 == s) || s == "help" then
          match more with
          | [] => Arguments.failure .displayHelp ""
          | t :: _ => unrecognized t
        else unrecognized s
    else if w.startsWith "-" && w.length ≥ 2 then
      if w.startsWith "--" then
        if w == "--" then
          match rest with
          | s :: _ =>
            if subcommands.any (·.1 == s) || s == "help" then Arguments.unexpected s
            else unrecognized s
          | [] => Arguments.failure .displayHelpOnMissingArgumentOrSubcommand ""
        else Arguments.unexpected (((w.drop 2).toString.splitOn "=").headD "" |> ("--" ++ ·))
      else Arguments.unexpected ("-" ++ String.singleton (w.toList.getD 1 ' '))
    else
      match subcommands.lookup w with
      | some specs => Arguments.build w <$> Arguments.readSubcommand specs rest
      | none => unrecognized w

end ForexJournal
