import ForexJournal.Store.Journal

/-!
# What the command line acts on

The command line reads a configuration file and candle files, and keeps its journal in a
database file. `World` holds these: files with their bytes, the directories that exist, the
database files with their data, the databases whose write lock another connection holds, the
working directory that relative paths start from (empty when paths are used as given), the
clock, and the serial number of the next identifier to hand out.

Reading a missing path or a directory fails with the system's message. A database opens
at a database file, at an empty file or at a new file in an existing directory; a file with
other content is no database, and a directory or a path in a missing directory cannot be
opened.
-/

namespace ForexJournal

/-- The files, directories and databases the command line sees, with the clock and the next
identifier. -/
structure World where
  files : List (String × List UInt8)
  directories : List String
  databases : List (String × Database)
  locked : List String
  cwd : String
  clock : Instant
  serial : Nat

/-- Why a database file could not be used. -/
inductive OpenFailure where
  /-- the path cannot be opened as a file -/
  | cannotOpen
  /-- the file holds something else -/
  | notADatabase

namespace World

def missingFile : String := "No such file or directory (os error 2)"

def isDirectory : String := "Is a directory (os error 21)"

/-- The path a name stands for: a relative name starts from the working directory. -/
def locate (w : World) (path : String) : String :=
  let path := if path.startsWith "./" then (path.drop 2).toString else path
  if w.cwd.isEmpty || path.startsWith "/" then path else w.cwd ++ "/" ++ path

/-- The bytes of a file, or the system's message. -/
def readFile (w : World) (path : String) : Except String (List UInt8) :=
  let path := w.locate path
  match w.files.lookup path with
  | some bytes => .ok bytes
  | none => if w.directories.contains path then .error isDirectory else .error missingFile

/-- The directory a path lies in; `none` for a path relative to the working directory. -/
def parent (path : String) : Option String :=
  let parts := path.splitOn "/"
  if parts.length ≤ 1 then none else some ("/".intercalate parts.dropLast)

/-- The store of the database at a path. -/
def openStore (w : World) (path : String) : Except OpenFailure Store :=
  let path := w.locate path
  let locked := w.locked.contains path
  match w.databases.lookup path with
  | some db => .ok ⟨db, locked⟩
  | none =>
    match w.files.lookup path with
    | some [] => .ok ⟨Database.empty, locked⟩
    | some _ => .error .notADatabase
    | none =>
      if w.directories.contains path then .error .cannotOpen
      else
        match parent path with
        | none => .ok ⟨Database.empty, locked⟩
        | some dir =>
          if dir.isEmpty || w.directories.contains dir then .ok ⟨Database.empty, locked⟩
          else .error .cannotOpen

/-- Keeps a store's data as the database file at a path. -/
def saveStore (w : World) (path : String) (s : Store) : World :=
  let path := w.locate path
  { w with databases := (path, s.db) :: w.databases.filter (·.1 != path),
           files := w.files.filter (·.1 != path) }

def takeIds (w : World) (n : Nat) : World := { w with serial := w.serial + n }

def tick (w : World) : World := { w with clock := w.clock.addSeconds 1 }

/-- Takes or releases the write lock of the database at a path for another connection. -/
def setLock (w : World) (path : String) (held : Bool) : World :=
  let path := w.locate path
  { w with locked := if held then path :: w.locked.filter (· != path) else w.locked.filter (· != path) }

end World

end ForexJournal
