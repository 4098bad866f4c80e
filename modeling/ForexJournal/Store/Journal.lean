import ForexJournal.Store.Rows

/-!
# The journal's transactions

Accounts, trades, executions and terminal markers are written inside transactions. A
transaction's work reads and writes the database; it is a state function that may fail. The
transaction takes the write lock first, and fails with a conflict when another connection
holds it. Work that fails is rolled back: the database stays as it was. Work that succeeds is
committed, unless the deadline has passed by then, which with a deadline of 0 ms it always
has.

How the port ends an attempt is an `AttemptFault`: `Store.attempt` takes it as an argument, so
that a transaction can be run under any pattern of lost races and missed deadlines, and
`Store.transaction` runs it under the store's own.
-/

namespace ForexJournal

/-- The journal's database and whether another connection holds its write lock. -/
structure Store where
  db : Database
  writeLocked : Bool

abbrev JournalTx := StateT Database (Except JournalError)

namespace JournalTx

def fail {α : Type} (e : JournalError) : JournalTx α := fun _ => .error e

/-- Runs a database change. -/
def change {α : Type} (f : Database → Except String (Database × α)) : JournalTx α := fun db =>
  match f db with
  | .ok (db', a) => .ok (a, db')
  | .error m => .error (Rows.queryError m)

def read {α : Type} (f : Database → Except JournalError α) : JournalTx α := fun db =>
  (f db).map (·, db)

def insertAccount (a : Account) : JournalTx Unit :=
  change fun db => (db.insert "accounts" a.toRow .abort true).map fun (db', _) => (db', ())

/-- The account with the given id, or `NotFound`. -/
def loadAccount (id : Uuid) : JournalTx Account := read fun db => do
  let rows ← Rows.selectOrdered db "accounts" accountColumns (Rows.whereText "id" id.toText)
    Rows.noOrder
  match ← Rows.decodeFirst Account.ofRow rows with
  | some a => .ok a
  | none => .error (.notFound "account" id.toText)

def candleExists (id : Uuid) : JournalTx Bool := read fun db => do
  let t ← Rows.lift (db.requireTable "candles")
  return t.values.any (Rows.whereText "id" id.toText t)

def insertTrade (t : Trade) : JournalTx Unit :=
  change fun db => (db.insert "trades" t.toRow .abort true).map fun (db', _) => (db', ())

/-- The trade with the given id, or `NotFound`. -/
def loadTrade (id : Uuid) : JournalTx Trade := read fun db => do
  let rows ← Rows.selectOrdered db "trades" tradeColumns (Rows.whereText "id" id.toText)
    Rows.noOrder
  match ← Rows.decodeFirst Trade.ofRow rows with
  | some t => .ok t
  | none => .error (.notFound "trade" id.toText)

/-- Every trade of the account on the candle, oldest first. -/
def tradesForAccountCandle (account candle : Uuid) : JournalTx (List Trade) := read fun db => do
  let rows ← Rows.selectOrdered db "trades" tradeColumns
    (fun t r => Rows.whereText "account_id" account.toText t r &&
      Rows.whereText "candle_id" candle.toText t r)
    (Rows.byColumns ["created_at"])
  Rows.decodeAll Trade.ofRow rows

/-- The executions of a trade, by execution time and then in insertion order. -/
def loadExecutions (trade : Uuid) : JournalTx (List Execution) := read fun db => do
  let rows ← Rows.selectOrdered db "executions" executionColumns
    (Rows.whereText "trade_id" trade.toText) (Rows.byColumns ["executed_at", "seq"])
  Rows.decodeAll Execution.ofRow rows

/-- Sets the terminal marker of a trade that has none. When no row changes, the trade is
loaded again (so a missing trade is `NotFound`) and the call is a conflict. -/
def setTerminalMarker (trade : Uuid) (r : TerminalRecord) : JournalTx Unit := do
  let changed ← change fun db =>
    (db.update "trades" ["terminal_marker", "terminal_reason", "terminal_at"]
      (fun _ => .ok [("terminal_marker", .text r.marker.name), ("terminal_reason", .text r.reason),
        ("terminal_at", Codec.ts r.markedAt)])
      (fun row => .ok (SqlValue.sqlEq (tradesTable.get row "id") (.text trade.toText) &&
        tradesTable.get row "terminal_marker" == .null))
      true).map fun (db', n) => (db', n)
  if changed = 0 then
    let _ ← loadTrade trade
    fail (.conflict ("terminal marker already set on trade " ++ trade.toText))

def insertExecution (e : Execution) : JournalTx Unit :=
  change fun db => (db.insert "executions" e.toRow .abort true).map fun (db', _) => (db', ())

end JournalTx

/-- How the port ends one attempt of a transaction, whatever its work returns. -/
inductive AttemptFault where
  /-- the transaction commits what its work wrote -/
  | none
  /-- another connection holds the write lock: a conflict before the work runs -/
  | locked
  /-- the transaction loses to another writer at commit, with the reason given -/
  | lost (reason : String)
  /-- the deadline passes while the work runs -/
  | late
  deriving DecidableEq, Repr

namespace Store

def empty : Store := ⟨Database.empty, false⟩

def fresh : Store := ⟨Database.empty.initializeSchema, false⟩

/-- Runs work in one attempt of a transaction that the port ends as `fault` says. A work that
fails, or an attempt that fails, leaves nothing behind; otherwise the work's database is
committed. -/
def attempt {α : Type} (s : Store) (fault : AttemptFault) (timeoutMs : Nat) (work : JournalTx α) :
    Except JournalError (α × Store) :=
  match fault, work s.db with
  | .locked, _ => .error (.conflict "database is locked")
  | _, .error e => .error e
  | .lost r, .ok _ => .error (.conflict r)
  | .late, .ok _ => .error (.timeout timeoutMs)
  | .none, .ok (v, db') => .ok (v, { s with db := db' })

/-- How this store's port ends an attempt: a conflict while another connection holds the write
lock, and a missed deadline whenever the deadline is 0 ms. -/
def fault (s : Store) (timeoutMs : Nat) : AttemptFault :=
  if s.writeLocked then .locked else if timeoutMs = 0 then .late else .none

/-- Runs work in one transaction with a deadline in milliseconds (see the module note). -/
def transaction {α : Type} (s : Store) (timeoutMs : Nat) (work : JournalTx α) :
    Except JournalError (α × Store) :=
  s.attempt (s.fault timeoutMs) timeoutMs work

/-- The longest busy timeout a database connection takes: a count of milliseconds in a signed
32-bit word. A transaction hands its deadline to its connection as the busy timeout. -/
def maxBusyTimeoutMs : Nat := 2147483647

end Store

end ForexJournal
