import ForexJournal.Market.Candle
import ForexJournal.Text.Csv
import ForexJournal.Config.Ini

/-!
# Candle files

A candle file is a CSV text with a header line and one candle a row: date, open, high, low,
close and an optional volume. Fields are trimmed. The date is `year-month-day` (midnight UTC)
or a strict RFC 3339 date and time. A row that cannot be read, or whose candle is not
consistent, is skipped and counted; a row with bytes that are not UTF-8 is skipped too. The
candles come back in time order, rows of one instant in file order.
-/

namespace ForexJournal

/-- The candles read from a file and the number of rows skipped. -/
structure CsvCandles where
  candles : List Candle
  skippedRows : Nat

namespace CandleFile

/-- The field at `index`, if present and not empty. -/
def field (row : List String) (index : Nat) (name : String) : Except String String :=
  match row[index]? with
  | some v => if v.isEmpty then .error ("missing " ++ name ++ " column") else .ok v
  | none => .error ("missing " ++ name ++ " column")

/-- Reads the date of a row. -/
def parseTimestamp (raw : String) : Except String Instant :=
  match readDateText raw with
  | .ok t => .ok t
  | .error _ =>
    match readStrictInstantText raw with
    | .ok t => .ok t
    | .error e => .error ("invalid date " ++ raw ++ ": " ++ e.message)

/-- Reads a price of a row. -/
def parsePrice (row : List String) (index : Nat) (name : String) : Except String Decimal := do
  let raw ← field row index name
  match Decimal.parse raw with
  | .ok d => .ok d
  | .error e => .error ("invalid " ++ name ++ " value " ++ raw ++ ": " ++ e)

/-- Reads the volume of a row: none if the field is missing or empty. -/
def parseVolume (row : List String) : Except String (Option Int) :=
  match row[5]?.filter (!·.isEmpty) with
  | some v =>
    match parseInt64? v with
    | some n => .ok (some n)
    | none => .error ("invalid volume " ++ v)
  | none => .ok none

/-- Reads one row into a consistent candle with the given id. -/
def parseRow (row : List String) (symbol : String) (tf : Timeframe) (id : Uuid) :
    Except String Candle := do
  let timestamp ← parseTimestamp (← field row 0 "date")
  let o ← parsePrice row 1 "open"
  let h ← parsePrice row 2 "high"
  let l ← parsePrice row 3 "low"
  let c ← parsePrice row 4 "close"
  let volume ← parseVolume row
  let candle : Candle := ⟨id, symbol, tf, timestamp, o, h, l, c, volume⟩
  match candle.validate with
  | .ok () => pure candle
  | .error e => throw e.message

/-- The trimmed text fields of a record, if every field is UTF-8. -/
def decodeRecord (fields : List (List UInt8)) : Option (List String) :=
  fields.mapM fun f => (String.fromUTF8? (ByteArray.mk f.toArray)).map trimBlank

/-- Reads one record into a candle with the given id; a record that is not UTF-8 is refused. -/
def readRecord (symbol : String) (tf : Timeframe) (id : Uuid) (r : List (List UInt8)) :
    Except String Candle :=
  match decodeRecord r with
  | some row => parseRow row symbol tf id
  | none => .error "invalid utf-8"

/-- Reads the rows after the header; the `k`-th candle read gets the id `ids k`. Gives the
candles in row order and the number of rows skipped. -/
def readRows (symbol : String) (tf : Timeframe) (ids : Nat → Uuid) :
    List (List (List UInt8)) → List Candle × Nat
  | [] => ([], 0)
  | r :: rs =>
    match readRecord symbol tf (ids 0) r with
    | .ok c =>
      let (cs, skipped) := readRows symbol tf (fun k => ids (k + 1)) rs
      (c :: cs, skipped)
    | .error _ =>
      let (cs, skipped) := readRows symbol tf ids rs
      (cs, skipped + 1)

end CandleFile

/-- Reads the candles of a file's bytes (see the module note). -/
def readCandles (bytes : List UInt8) (symbol : String) (tf : Timeframe) (ids : Nat → Uuid) :
    CsvCandles :=
  let (cs, skipped) := CandleFile.readRows symbol tf ids (Csv.records bytes).tail
  ⟨cs.mergeSort fun a b => a.timestamp.le b.timestamp, skipped⟩

end ForexJournal
