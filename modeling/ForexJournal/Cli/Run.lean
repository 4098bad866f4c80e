import ForexJournal.Cli.Arguments
import ForexJournal.Cli.World
import ForexJournal.Config.Settings
import ForexJournal.Config.Connection
import ForexJournal.Service.Journal
import ForexJournal.Service.Evaluation
import ForexJournal.Session
import ForexJournal.Market.CandleFile

/-!
# Running a command

A run loads the configuration file, checks it, builds the journal's settings, opens the
configured database and runs the command against it. The result is printed as JSON on the
standard output; a failure prints one `error: ` line on the standard error and ends with the
failure's exit code. The `sessions` command needs no configuration.

Of the two backends, the database file is the one a run can reach. A server backend is
checked as far as its connection string; connecting then fails, as no server answers.
-/

namespace ForexJournal

/-- What a run prints and how it ends. -/
structure Outcome where
  exit : Nat
  stdout : Option Json
  stderr : List String

namespace Outcome

def success (j : Json) : Outcome := ⟨0, some j, []⟩

def failure (e : JournalError) : Outcome :=
  ⟨e.exitCode, none, ("error: " ++ e.message).splitOn "\n"⟩

/-- A run stopped by an arithmetic fault: it prints the fault and exits with code 101. -/
def stopped (f : Fault) : Outcome := ⟨101, none, [f.message]⟩

def halted : Halt → Outcome
  | .refused e => failure e
  | .fault f => stopped f

end Outcome

def sessionsJson (moment : Instant) : Json :=
  .obj [("at", .str moment.toText), ("sessions", .arr ((deriveSessions moment).map (.str ·.name)))]

namespace Cli

/-- Reads and parses the configuration file. -/
def loadConfig (w : World) (path : String) : Except JournalError Ini :=
  let fail (r : String) : Except JournalError Ini :=
    .error (.configParse path ("couldn't read " ++ path ++ ": " ++ r))
  match w.readFile path with
  | .error m => fail m
  | .ok bytes =>
    match String.fromUTF8? (ByteArray.mk bytes.toArray) with
    | none => fail "stream did not contain valid UTF-8"
    | some text =>
      match Ini.parse text with
      | .ok ini => .ok ini
      | .error m => fail m

/-- The path of the database file the configuration names. -/
def sqlitePath (ini : Ini) : Except JournalError String :=
  match ini.getString "sqlite" "path" with
  | some p => .ok p
  | none => .error (.configMissing "sqlite" "path")

/-- The number of connections the database file's pool may hold: `[sqlite] pool_size`, 4 when
missing, raised to at least 1 and then cut to a 32-bit word, which keeps its low 32 bits. -/
def sqlitePoolSize (ini : Ini) : Nat :=
  (max 1 (ini.getInt "sqlite" "pool_size" 4)).toNat % 4294967296

/-- The database file of the configured backend; a server backend fails at its connection
string or at connecting. -/
def backendPath (ini : Ini) : Except JournalError String :=
  if ini.getString "database" "backend" == some "postgres" then
    match (ini.getString "postgres" "connection_string").orElse
        fun _ => ini.getString "database" "conninfo" with
    | none => .error (.configMissing "database" "conninfo")
    | some s =>
      match ConnectionString.read s with
      | none => .error (.configInvalid "postgres" "connection_string" "invalid connection string")
      | some params =>
        if params.any fun (k, _) => k == "host" || k == "hostaddr" then
          .error (.database ("timed out waiting for connection: error connecting to server: " ++
            "Connection refused (os error 111)"))
        else .error (.database "timed out waiting for connection: invalid configuration: host missing")
  else sqlitePath ini

/-- Opens the database file at a path. -/
def openDatabase (w : World) (path : String) : Except JournalError Store :=
  match w.openStore path with
  | .ok s => .ok s
  | .error .cannotOpen => .error (.database "timed out waiting for connection: unable to open database file")
  | .error .notADatabase => .error (.databaseQuery "file is not a database")

/-- The database file of a configuration file, opened; how the steps that act on the database
from outside reach it. -/
def configuredStore (w : World) (configPath : String) : Except JournalError (String × Store) := do
  let ini ← loadConfig w configPath
  let path ← sqlitePath ini
  return (path, ← openDatabase w path)

/-- The import summary of a file. -/
def importJson (file : String) (read : CsvCandles) (s : ImportSummary) : Json :=
  .obj [("file", .str file), ("rows", .num read.candles.length),
    ("skipped_rows", .num read.skippedRows), ("inserted", .num s.inserted),
    ("duplicates", .num s.duplicates)]

/-- Runs a command against an open store kept at `path`; the world keeps what the command
wrote, also when it fails after writing. -/
def execute (w : World) (path : String) (store : Store) (settings : JournalSettings)
    (cmd : Command) : Except Halt Json × World :=
  let now := w.clock
  let id := Uuid.ofSerial w.serial
  let w := (w.tick.takeIds 1).saveStore path store
  let done {α : Type} (r : Except JournalError (α × Store)) (f : α → Json) :
      Except Halt Json × World :=
    match r with
    | .ok (a, st) => (.ok (f a), w.saveStore path st)
    | .error e => (.error (.refused e), w)
  match cmd with
  | .initDb _ =>
    if store.writeLocked then (.error (.refused (.conflict "database is locked")), w)
    else (.ok (.obj [("initialized", .bool true)]),
      w.saveStore path { store with db := store.db.initializeSchema })
  | .importCandles _ file series =>
    match w.readFile file with
    | .error m => (.error (.refused (.importFailed ("failed to open " ++ file ++ ": " ++ m))), w)
    | .ok bytes =>
      let read := readCandles bytes series.symbol series.timeframe fun i => Uuid.ofSerial (w.serial + i)
      let w := w.takeIds (read.candles.length + read.skippedRows)
      let (r, st) := Evaluation.importCandles store read.candles
      let w := w.saveStore path st
      (r.map (importJson file read), w)
  | .backfillIndicators _ s =>
    let (r, st) := Evaluation.backfillIndicators store s.symbol s.timeframe
    (BackfillSummary.toJson <$> r, w.saveStore path st)
  | .evaluate _ (some candle) _ => done (Evaluation.evaluateCandle store candle now) RuleResults.toJson
  | .evaluate _ none s =>
    done (Evaluation.evaluateAllCandles store s.symbol s.timeframe now) BatchSummary.toJson
  | .addAccount _ a => done (Journal.createAccount store settings a id now) Account.toJson
  | .planTrade _ p => done (Journal.createTrade store settings p id now) Trade.toJson
  | .record _ trade kind price size reason executedAt =>
    done (Journal.recordExecution store settings
      ⟨trade, kind, price, size, executedAt.getD now, reason⟩ id) Execution.toJson
  | .terminate _ trade marker reason =>
    done (Journal.setTerminalMarker store settings trade marker reason now) Trade.toJson
  | .status _ trade =>
    ((Except.mapError .refused ((·.toJson) <$> Journal.tradeStatus store settings trade)), w)
  | .sessions moment => (.ok (sessionsJson moment), w)

/-- Runs a command line's command (see the module note). -/
def run (w : World) (cmd : Command) : Outcome × World :=
  match cmd.configPath with
  | none =>
    match cmd with
    | .sessions moment => (.success (sessionsJson moment), w)
    | _ => (⟨1, none, []⟩, w)
  | some configPath =>
    let attempt : Except JournalError (String × Store × JournalSettings) := do
      let ini ← loadConfig w configPath
      validateJournalConfig ini
      let settings := buildJournalSettings ini
      let path ← backendPath ini
      return (path, ← openDatabase w path, settings)
    match attempt with
    | .error e => (.failure e, w)
    | .ok (path, store, settings) =>
      match execute w path store settings cmd with
      | (.ok j, w') => (.success j, w')
      | (.error h, w') => (.halted h, w')

end Cli

end ForexJournal
