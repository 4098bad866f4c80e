import Mathlib
import ForexJournal.Market.CandleFile
import ForexJournal.Proofs.History
import ForexJournal.Proofs.Writes

/-!
# Reading candle files

What a row of a candle file reads as is said field by field in `RowReads`: the date, the four
prices and the volume are the values of the row's fields, and the candle is consistent. Each
reading function has one lemma saying exactly when it succeeds, and `RowsRead` describes a
pass over the records in which each record gives its candle or, when it reads as none, is
skipped. The main statement: the candles and the skipped records of a file are as many as its
records after the header, and the candles are those of the records, sorted by time, with the
candles of one instant in file order.
-/

namespace ForexJournal

namespace CandleFile

/-- The field at `i` of a row holds a non-empty text that reads as the price `p`. -/
def PriceAt (row : List String) (i : Nat) (p : Decimal) : Prop :=
  ∃ s, row[i]? = some s ∧ s ≠ "" ∧ Decimal.parse s = .ok p

/-- A date text names the instant `t`: a date alone names midnight UTC of that day, and a text
that is no date alone is read as an RFC 3339 date and time, converted to UTC. -/
def DateAt (raw : String) (t : Instant) : Prop :=
  (readDateText raw = .ok t ∧ t.nanos = 0 ∧ t.seconds % 86400 = 0) ∨
    ((∃ e, readDateText raw = .error e) ∧ readStrictInstantText raw = .ok t)

/-- The sixth field of a row gives the volume `v`: none when the field is missing or empty,
else the 64-bit integer it reads as. -/
def VolumeAt (row : List String) (v : Option Int) : Prop :=
  ((∀ s, row[5]? = some s → s = "") ∧ v = none) ∨
    ∃ s n, row[5]? = some s ∧ s ≠ "" ∧ parseInt64? s = some n ∧ v = some n

/-- A row of text fields reads as the candle `c` of the given symbol and timeframe: its date,
four prices and volume are the values of the row's fields, and the candle is consistent. -/
structure RowReads (symbol : String) (tf : Timeframe) (row : List String) (c : Candle) : Prop where
  symbol_eq : c.symbol = symbol
  timeframe_eq : c.timeframe = tf
  date : ∃ d, row[0]? = some d ∧ d ≠ "" ∧ DateAt d c.timestamp
  openPrice : PriceAt row 1 c.openPrice
  high : PriceAt row 2 c.high
  low : PriceAt row 3 c.low
  close : PriceAt row 4 c.close
  volume : VolumeAt row c.volume
  valid : c.validate = .ok ()

theorem field_eq_ok {row : List String} {i : Nat} {name s : String} :
    field row i name = .ok s ↔ row[i]? = some s ∧ s ≠ "" := by
  unfold field
  cases row[i]? with
  | none => simp
  | some v =>
    by_cases hv : v = ""
    · simp [hv]
    · simp only [String.isEmpty_iff, hv, if_false, Except.ok.injEq, Option.some.injEq]
      constructor
      · rintro rfl
        exact ⟨rfl, hv⟩
      · rintro ⟨rfl, -⟩
        rfl

theorem parsePrice_eq_ok {row : List String} {i : Nat} {name : String} {p : Decimal} :
    parsePrice row i name = .ok p ↔ PriceAt row i p := by
  unfold parsePrice PriceAt
  simp only [except_bind_eq_ok, field_eq_ok]
  constructor
  · rintro ⟨s, ⟨hs, hne⟩, hp⟩
    refine ⟨s, hs, hne, ?_⟩
    split at hp <;> simp_all
  · rintro ⟨s, hs, hne, hp⟩
    exact ⟨s, ⟨hs, hne⟩, by simp [hp]⟩

theorem readDateText_midnight {raw : String} {t : Instant} (h : readDateText raw = .ok t) :
    t.nanos = 0 ∧ t.seconds % 86400 = 0 := by
  simp only [readDateText, except_bind_eq_ok] at h
  obtain ⟨⟨⟨y, mo, d⟩, cs⟩, -, h⟩ := h
  repeat' split at h
  all_goals cases h
  simp [Instant.ofCivil]

theorem parseTimestamp_eq_ok {raw : String} {t : Instant} :
    parseTimestamp raw = .ok t ↔ DateAt raw t := by
  unfold parseTimestamp DateAt
  cases hd : readDateText raw with
  | ok t' =>
    simp only [Except.ok.injEq, reduceCtorEq, exists_false, false_and, or_false]
    constructor
    · rintro rfl
      exact ⟨rfl, readDateText_midnight hd⟩
    · rintro ⟨rfl, -⟩
      rfl
  | error e =>
    cases readStrictInstantText raw <;> simp

theorem parseVolume_eq_ok {row : List String} {v : Option Int} :
    parseVolume row = .ok v ↔ VolumeAt row v := by
  unfold parseVolume VolumeAt
  cases hs : row[5]? with
  | none =>
    simp
    exact eq_comm
  | some s =>
    by_cases he : s = ""
    · simp [Option.filter_some, he]
      exact eq_comm
    · cases hn : parseInt64? s with
      | none => simp [Option.filter_some, he, hn]
      | some n =>
        simp [Option.filter_some, he, hn]
        exact eq_comm

theorem parseRow_eq_ok {row : List String} {symbol : String} {tf : Timeframe} {id : Uuid}
    {c : Candle} : parseRow row symbol tf id = .ok c ↔ RowReads symbol tf row c ∧ c.id = id := by
  constructor
  · intro h
    simp only [parseRow, except_bind_eq_ok] at h
    obtain ⟨d, hd, t, ht, o, ho, hi, hh, lo, hl, cl, hc, v, hv, h⟩ := h
    obtain ⟨hd, hne⟩ := field_eq_ok.1 hd
    split at h
    · next hvalid =>
      cases h
      exact ⟨⟨rfl, rfl, ⟨d, hd, hne, parseTimestamp_eq_ok.1 ht⟩, parsePrice_eq_ok.1 ho,
        parsePrice_eq_ok.1 hh, parsePrice_eq_ok.1 hl, parsePrice_eq_ok.1 hc,
        parseVolume_eq_ok.1 hv, hvalid⟩, rfl⟩
    · cases h
  · rintro ⟨hc, rfl⟩
    obtain ⟨d, hd, hne, hdate⟩ := hc.date
    rw [← hc.symbol_eq, ← hc.timeframe_eq]
    simp only [parseRow, field_eq_ok.2 ⟨hd, hne⟩, parseTimestamp_eq_ok.2 hdate,
      parsePrice_eq_ok.2 hc.openPrice, parsePrice_eq_ok.2 hc.high, parsePrice_eq_ok.2 hc.low,
      parsePrice_eq_ok.2 hc.close, parseVolume_eq_ok.2 hc.volume, bind, Except.bind]
    rw [hc.valid]
    rfl

/-- A record of byte fields reads as the candle `c`: its fields are UTF-8 and, trimmed, read
as `c`. -/
def RecordReads (symbol : String) (tf : Timeframe) (r : List (List UInt8)) (c : Candle) : Prop :=
  ∃ row, decodeRecord r = some row ∧ RowReads symbol tf row c

theorem RowReads.withId {symbol : String} {tf : Timeframe} {row : List String} {c : Candle}
    (h : RowReads symbol tf row c) (id : Uuid) : RowReads symbol tf row { c with id := id } :=
  ⟨h.symbol_eq, h.timeframe_eq, h.date, h.openPrice, h.high, h.low, h.close, h.volume, h.valid⟩

theorem readRecord_eq_ok {symbol : String} {tf : Timeframe} {id : Uuid}
    {r : List (List UInt8)} {c : Candle} :
    readRecord symbol tf id r = .ok c ↔ RecordReads symbol tf r c ∧ c.id = id := by
  unfold readRecord RecordReads
  cases hr : decodeRecord r with
  | none => simp
  | some row => simp [parseRow_eq_ok]

theorem not_recordReads_of_error {symbol : String} {tf : Timeframe} {id : Uuid}
    {r : List (List UInt8)} {e : String} (h : readRecord symbol tf id r = .error e) (c : Candle) :
    ¬ RecordReads symbol tf r c := by
  rintro ⟨row, hrow, hc⟩
  have hok : readRecord symbol tf id r = .ok { c with id := id } :=
    readRecord_eq_ok.2 ⟨⟨row, hrow, hc.withId id⟩, rfl⟩
  rw [h] at hok
  cases hok

/-- `RowsRead symbol tf records candles skipped`: going through `records` in order, each record
that reads as a candle gives it and every other one is skipped, which gives `candles` in file
order and `skipped` records skipped. -/
inductive RowsRead (symbol : String) (tf : Timeframe) :
    List (List (List UInt8)) → List Candle → Nat → Prop where
  | nil : RowsRead symbol tf [] [] 0
  | read {r rs c cs k} (reads : RecordReads symbol tf r c) (tail : RowsRead symbol tf rs cs k) :
      RowsRead symbol tf (r :: rs) (c :: cs) k
  | skip {r rs cs k} (unreadable : ∀ c, ¬ RecordReads symbol tf r c)
      (tail : RowsRead symbol tf rs cs k) : RowsRead symbol tf (r :: rs) cs (k + 1)

namespace RowsRead

variable {symbol : String} {tf : Timeframe} {rs : List (List (List UInt8))} {cs : List Candle}
  {k : Nat}

theorem length_add (h : RowsRead symbol tf rs cs k) : cs.length + k = rs.length := by
  induction h with
  | nil => rfl
  | read _ _ ih => simp only [List.length_cons]; omega
  | skip _ _ ih => simp only [List.length_cons]; omega

theorem exists_record (h : RowsRead symbol tf rs cs k) {c : Candle} (hc : c ∈ cs) :
    ∃ r ∈ rs, RecordReads symbol tf r c := by
  induction h with
  | nil => cases hc
  | @read r rs c' cs k reads _ ih =>
    rcases List.mem_cons.1 hc with rfl | hc
    · exact ⟨r, List.mem_cons_self, reads⟩
    · obtain ⟨r', hr', hcr⟩ := ih hc
      exact ⟨r', List.mem_cons_of_mem r hr', hcr⟩
  | @skip r rs cs k _ _ ih =>
    obtain ⟨r', hr', hcr⟩ := ih hc
    exact ⟨r', List.mem_cons_of_mem r hr', hcr⟩

end RowsRead

theorem readRows_cons_of_ok {symbol : String} {tf : Timeframe} {ids : Nat → Uuid}
    {r : List (List UInt8)} {rs : List (List (List UInt8))} {c : Candle}
    (h : readRecord symbol tf (ids 0) r = .ok c) :
    readRows symbol tf ids (r :: rs) =
      (c :: (readRows symbol tf (fun k => ids (k + 1)) rs).1,
        (readRows symbol tf (fun k => ids (k + 1)) rs).2) := by
  simp [readRows, h]

theorem readRows_cons_of_error {symbol : String} {tf : Timeframe} {ids : Nat → Uuid}
    {r : List (List UInt8)} {rs : List (List (List UInt8))} {e : String}
    (h : readRecord symbol tf (ids 0) r = .error e) :
    readRows symbol tf ids (r :: rs) =
      ((readRows symbol tf ids rs).1, (readRows symbol tf ids rs).2 + 1) := by
  simp [readRows, h]

theorem rowsRead_readRows (symbol : String) (tf : Timeframe) (ids : Nat → Uuid)
    (rs : List (List (List UInt8))) :
    RowsRead symbol tf rs (readRows symbol tf ids rs).1 (readRows symbol tf ids rs).2 := by
  induction rs generalizing ids with
  | nil => exact .nil
  | cons r rs ih =>
    cases hr : readRecord symbol tf (ids 0) r with
    | ok c =>
      rw [readRows_cons_of_ok hr]
      exact .read (readRecord_eq_ok.1 hr).1 (ih _)
    | error e =>
      rw [readRows_cons_of_error hr]
      exact .skip (not_recordReads_of_error hr) (ih ids)

end CandleFile

/-- Reading a candle file accounts for every record after the header: the candles and the
skipped records together are as many as the records, every candle is consistent and of the
series asked for, and the candles are those read from the records, sorted by time with the
candles of one instant in file order. -/
theorem readCandles_accounts_for_records (bytes : List UInt8) (symbol : String)
    (tf : Timeframe) (ids : Nat → Uuid) :
    let read := readCandles bytes symbol tf ids
    read.candles.length + read.skippedRows = (Csv.records bytes).tail.length ∧
    (∀ c ∈ read.candles, c.validate = .ok () ∧ c.symbol = symbol ∧ c.timeframe = tf) ∧
    ∃ inFileOrder, CandleFile.RowsRead symbol tf (Csv.records bytes).tail inFileOrder
        read.skippedRows ∧
      read.candles.Perm inFileOrder ∧
      read.candles.Pairwise (fun a b => a.timestamp.le b.timestamp) ∧
      ∀ t, read.candles.filter (·.timestamp = t) = inFileOrder.filter (·.timestamp = t) := by
  intro read
  have hrows := CandleFile.rowsRead_readRows symbol tf ids (Csv.records bytes).tail
  have hperm : read.candles.Perm (CandleFile.readRows symbol tf ids (Csv.records bytes).tail).1 :=
    List.mergeSort_perm _ _
  refine ⟨?_, ?_, _, hrows, hperm, ?_, ?_⟩
  · rw [hperm.length_eq]
    exact hrows.length_add
  · intro c hc
    obtain ⟨-, -, row, -, hrow⟩ := hrows.exists_record (hperm.mem_iff.1 hc)
    exact ⟨hrow.valid, hrow.symbol_eq, hrow.timeframe_eq⟩
  · exact @List.pairwise_mergeSort _ (fun a b : Candle => a.timestamp.le b.timestamp)
      (fun _ _ _ => Instant.le_trans) (fun a b : Candle => Instant.le_total a.timestamp b.timestamp) _
  · exact filter_mergeSort_key Candle.timestamp Instant.le (fun _ _ _ => Instant.le_trans)
      Instant.le_total _


end ForexJournal
