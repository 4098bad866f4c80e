import ForexJournal.Cli.Run
import ForexJournal.Cli.Help
import ForexJournal.Database.File
import Std.Time.DateTime.Timestamp

/-!
# The command-line program

Reads the files a command needs into a `World`, runs the command, prints what it printed and
writes the database file back.
-/

open ForexJournal

def readBytes (path : String) : IO (Option (List UInt8)) := do
  try return some (← IO.FS.readBinFile path).toList
  catch _ => return none

/-- The files a command reads: its configuration and its candle file. -/
def commandFiles (cmd : Command) : List String :=
  cmd.configPath.toList ++ match cmd with
    | .importCandles _ file _ => [file]
    | _ => []

/-- Loads the files and the database a command needs. -/
def loadWorld (cmd : Command) : IO (World × Option String) := do
  let nanos := (← Std.Time.Timestamp.now).toNanosecondsSinceUnixEpoch.val
  let clock : Instant := ⟨nanos / 1000000000, (nanos % 1000000000).toNat, by omega⟩
  let serial ← IO.rand 0 140737488355327
  let files ← (commandFiles cmd).filterMapM fun p => do
    return (← readBytes p).map (p, ·)
  let w : World := ⟨files, [], [], [], "", clock, serial⟩
  let dbPath := cmd.configPath.bind fun c =>
    match Cli.loadConfig w c with
    | .ok ini => (Cli.sqlitePath ini).toOption
    | .error _ => none
  match dbPath with
  | none => return (w, none)
  | some p =>
    let dirs := (World.parent p).toList
    match ← readBytes p with
    | none => return ({ w with directories := dirs }, some p)
    | some bytes =>
      let decoded := (String.fromUTF8? (ByteArray.mk bytes.toArray)).bind Database.decode
      match decoded with
      | some db => return ({ w with directories := dirs, databases := [(p, db)] }, some p)
      | none => return ({ w with directories := dirs, files := w.files ++ [(p, bytes)] }, some p)

def main (args : List String) : IO UInt32 := do
  match readCommand args with
  | .error e =>
    if e.kind == .displayHelp then e.report.forM IO.println
    else e.report.forM IO.eprintln
    return e.exitCode.toUInt32
  | .ok cmd =>
    let (w, dbPath) ← loadWorld cmd
    let (o, w') := Cli.run w cmd
    if let some j := o.stdout then IO.println (Json.renderPretty 0 j)
    o.stderr.forM IO.eprintln
    if let some p := dbPath then
      if let some db := w'.databases.lookup p then
        try IO.FS.writeFile p db.encode
        catch _ =>
          IO.eprintln "error: database error: unable to open database file"
          return 3
    return o.exit.toUInt32
