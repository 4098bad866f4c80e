import Mathlib
import ForexJournal.Proofs.BatchCounts
import ForexJournal.Proofs.RuleEvaluation

/-!
# Evaluating a candle again

A rule result is stored once per rule version and candle: the rule results table has the unique
key (rule code, rule version, candle), which leaves out the time of evaluation, and results are
inserted in ignore mode.

Whether a result is written depends only on the store its insert meets (`Store.Writes`,
`writes_iff`), and storing a result of another code does not change it
(`writes_of_insert_other_iff`). Storing a candle's results, whose codes are distinct, therefore
writes each one exactly when its own insert into the starting store would write
(`storeResults_resultRows`), and afterwards no insert of any of them writes again
(`insertRuleResult_after_store`). Evaluating the candle once more reads what the first
evaluation read, since storing results changes no candle or indicators table, and so returns the
same results and leaves the store as it was (`evaluateCandle_idempotent`).
-/

namespace ForexJournal

/-! ## The key of a rule result -/

def ruleResultKey : List String := ["rule_code", "rule_version", "candle_id"]

/-- The values a result of a rule version for a candle has in the key's columns. -/
def RuleResult.keyCells (r : RuleResult) (candle : Uuid) : List SqlValue :=
  [.text r.ruleCode, .integer r.ruleVersion, .text candle.toText]

/-- The rows of the rule results table that hold a result of `r`'s rule version for the
candle. -/
def Store.resultRows (s : Store) (candle : Uuid) (r : RuleResult) : List Row :=
  match s.db.table? "rule_results" with
  | some t => (Database.keyHits t ruleResultKey (r.keyCells candle) t.rows).map (·.2)
  | none => []

theorem SqlValue.sqlEq_integer (a b : Int) :
    SqlValue.sqlEq (.integer a) (.integer b) = decide (a = b) := by
  rw [Bool.eq_iff_iff]
  simp [SqlValue.sqlEq, SqlValue.compare]

namespace RuleResult

variable {t : Table} (r : RuleResult) (candle : Uuid) (now : Instant)

theorem uniqueKeys_of_schema (h : t.schema = ruleResultsTable) :
    t.schema.uniqueKeys = [ruleResultKey] := by
  rw [h]
  rfl

theorem key_cells (h : t.schema = ruleResultsTable) :
    ruleResultKey.map (t.get (r.cells candle now)) = r.keyCells candle := by
  simp +decide [Table.get, h, TableDef.columnIndex?, List.findIdx?_cons, ruleResultsTable,
    ruleResultKey, RuleResult.cells, RuleResult.toRow, RuleResult.keyCells, textCol, refCol,
    choiceCol, Codec.txt, Codec.uuidCell]

/-- A row of a result matches the key of another exactly when both are of one rule version and
one candle. -/
theorem keyMatch_cells {r' : RuleResult} {candle' : Uuid} (h : t.schema = ruleResultsTable) :
    ((ruleResultKey.zip (r'.keyCells candle')).all fun kv =>
      SqlValue.sqlEq (t.get (r.cells candle now) kv.1) kv.2) =
      decide (r.ruleCode = r'.ruleCode ∧ r.ruleVersion = r'.ruleVersion ∧ candle = candle') := by
  have hk := key_cells r candle now h
  simp only [ruleResultKey, List.map_cons, List.map_nil, keyCells, List.cons.injEq] at hk
  obtain ⟨hcode, hver, hcand, -⟩ := hk
  simp [ruleResultKey, keyCells, hcode, hver, hcand, SqlValue.sqlEq_text,
    SqlValue.sqlEq_integer, Uuid.toText_inj]

theorem checkColumns_cells (h : t.schema = ruleResultsTable) :
    Database.checkColumns t (r.cells candle now) = none := by
  obtain ⟨code, version, outcome, confidence, met, failed⟩ := r
  cases outcome <;>
    simp +decide [Database.checkColumns, Table.get, h, TableDef.columnIndex?, List.findIdx?_cons,
      ruleResultsTable, RuleResult.cells, RuleResult.toRow, textCol, refCol, choiceCol,
      Codec.txt, Codec.dec, Codec.ts, Codec.uuidCell, ColumnCheck.passes, RuleOutcome.name,
      SqlValue.sqlEq_text]

theorem checkReferences_cells {db : Database} (h : t.schema = ruleResultsTable) :
    db.checkReferences t (r.cells candle now) (t.schema.columns.map (·.name)) =
      match db.parentHas "candles" "id" (.text candle.toText) with
      | none => .error (Database.noSuchTable "main.candles")
      | some true => .ok ()
      | some false => .error "FOREIGN KEY constraint failed" := by
  simp +decide [Database.checkReferences, h, ruleResultsTable, textCol, refCol, choiceCol,
    Table.get, TableDef.columnIndex?, List.findIdx?_cons, RuleResult.cells, RuleResult.toRow,
    Codec.uuidCell, sameName_eq, bind, Except.bind, pure, Except.pure]
  rcases db.parentHas "candles" "id" (.text candle.toText) with _ | _ | _ <;> rfl

/-- A result's row clashes with stored rows exactly when one of them holds a result of its rule
version for its candle. -/
theorem clashes_cells_eq_nil (h : t.schema = ruleResultsTable) (rows : List (Nat × Row)) :
    Database.clashes t (r.cells candle now) rows = [] ↔
      Database.keyHits t ruleResultKey (r.keyCells candle) rows = [] := by
  rw [Database.clashes_eq_nil_iff, uniqueKeys_of_schema h, List.forall_mem_singleton,
    key_cells r candle now h]
  simp [keyCells]

theorem keyHits_eq_nil_of_admits {db : Database} {fk : Bool} (h : t.schema = ruleResultsTable)
    (ha : db.Admits t (r.cells candle now) .ignore fk) :
    Database.keyHits t ruleResultKey (r.keyCells candle) t.rows = [] :=
  (clashes_cells_eq_nil r candle now h t.rows).1 (ha.unique (by decide))

/-- A stored result's row is a hit for the key of a result exactly when both are of one rule
version and one candle. -/
theorem keyHits_cells {r' : RuleResult} {candle' : Uuid} (h : t.schema = ruleResultsTable)
    (n : Nat) :
    Database.keyHits t ruleResultKey (r'.keyCells candle') [(n, r.cells candle now)] =
      if r.ruleCode = r'.ruleCode ∧ r.ruleVersion = r'.ruleVersion ∧ candle = candle' then
        [(n, r.cells candle now)] else [] := by
  simp only [Database.keyHits, List.filter_cons, List.filter_nil, keyMatch_cells r candle now h,
    decide_eq_true_eq]

end RuleResult

theorem Database.keyHits_append (t : Table) (key : List String) (vals : List SqlValue)
    (rows extra : List (Nat × Row)) :
    Database.keyHits t key vals (rows ++ extra) =
      Database.keyHits t key vals rows ++ Database.keyHits t key vals extra :=
  List.filter_append ..

theorem Database.keyHits_of_schema {t t' : Table} (h : t'.schema = t.schema) :
    Database.keyHits t' = Database.keyHits t := by
  funext key vals rows
  simp only [Database.keyHits, Table.get_of_schema h]

theorem Database.keyHits_eq_nil_of_subset {t t' : Table} (h : t'.schema = t.schema)
    {key : List String} {vals : List SqlValue} {rows rows' : List (Nat × Row)}
    (hsub : rows ⊆ rows') (hnil : Database.keyHits t' key vals rows' = []) :
    Database.keyHits t key vals rows = [] := by
  rw [Database.keyHits_of_schema h] at hnil
  exact List.eq_nil_of_subset_nil (hnil ▸ List.filter_subset _ hsub)

/-! ## Storing one result -/

/-- `s'` is `s` with more rule results: the lock, the triggers and every other table are as they
were, and the rule results table keeps its schema and its rows. -/
structure Store.MoreResults (s s' : Store) : Prop where
  locked : s'.writeLocked = s.writeLocked
  grows : Database.Grows "rule_results" s.db s'.db
  others : ∀ n, sameName "rule_results" n = false → s'.db.table? n = s.db.table? n

namespace Store.MoreResults

theorem refl (s : Store) : s.MoreResults s := ⟨rfl, .refl _ _, fun _ _ => rfl⟩

theorem trans {s s' s'' : Store} (h₁ : s.MoreResults s') (h₂ : s'.MoreResults s'') :
    s.MoreResults s'' :=
  ⟨h₂.locked.trans h₁.locked, h₁.grows.trans h₂.grows,
    fun n hn => (h₂.others n hn).trans (h₁.others n hn)⟩

theorem candles {s s' : Store} (h : s.MoreResults s') :
    s'.db.table? "candles" = s.db.table? "candles" :=
  h.others "candles" (by rw [sameName_eq]; decide)

theorem indicators {s s' : Store} (h : s.MoreResults s') :
    s'.db.table? "indicators" = s.db.table? "indicators" :=
  h.others "indicators" (by rw [sameName_eq]; decide)

end Store.MoreResults

section Store

variable {s s' : Store} {candle : Uuid} {r : RuleResult} {now : Instant} {w : Bool}

def Store.Writes (s : Store) (candle : Uuid) (r : RuleResult) (now : Instant) : Prop :=
  ∃ s', s.insertRuleResult candle r now = .ok (true, s')

/-- An insert of a result into a store with the journal's rule results table took writes, and
skipped the result's row, or admitted it and put it after the stored rows. -/
theorem insertRuleResult_eq_ok
    (hS : ∀ t, s.db.table? "rule_results" = some t → t.schema = ruleResultsTable)
    (h : s.insertRuleResult candle r now = .ok (w, s')) :
    s.writeLocked = false ∧ ∃ t, s.db.table? "rule_results" = some t ∧
      (w = false ∧ s' = s ∧ s.db.Skips t (r.cells candle now) .ignore ∨
        w = true ∧ s.db.Admits t (r.cells candle now) .ignore true ∧
          s' = { s with db := s.db.putTable ⟨t.schema,
            t.rows ++ [(t.nextRowid, r.cells candle now)],
            Nat.max t.nextRowid (t.nextRowid + 1)⟩ }) := by
  refine ⟨Store.write_unlocked h, ?_⟩
  obtain ⟨db', hins, rfl⟩ := Store.write_eq_ok h
  obtain ⟨t, rowid, row, hT, hrow, ⟨hw, rfl, hs⟩ | ⟨hw, ha, kept, hkept, rfl⟩⟩ :=
    Database.insert_eq_ok_cases hins
  all_goals rw [RuleResult.newRow_toRow (hS t hT)] at hrow
  all_goals cases hrow
  · exact ⟨t, hT, .inl ⟨hw, rfl, hs⟩⟩
  · rw [hkept (by decide)]
    exact ⟨t, hT, .inr ⟨hw, ha, rfl⟩⟩

theorem Store.MoreResults.of_insertRuleResult
    (h : s.insertRuleResult candle r now = .ok (w, s')) : s.MoreResults s' := by
  obtain ⟨db', hins, rfl⟩ := Store.write_eq_ok h
  exact ⟨rfl, .of_insert hins (by decide), fun n hn => Database.insert_table?_of_ne hins hn⟩

theorem resultRows_of_insert_other
    (hS : ∀ t, s.db.table? "rule_results" = some t → t.schema = ruleResultsTable)
    (h : s.insertRuleResult candle r now = .ok (w, s')) {q : RuleResult}
    (hq : r.ruleCode ≠ q.ruleCode) : s'.resultRows candle q = s.resultRows candle q := by
  obtain ⟨-, t, hT, ⟨-, rfl, -⟩ | ⟨-, -, rfl⟩⟩ := insertRuleResult_eq_ok hS h
  · rfl
  · simp only [Store.resultRows, Database.table?_putTable_rows hT, hT, Database.keyHits_mk,
      Database.keyHits_append, RuleResult.keyHits_cells r candle now (hS t hT), hq, false_and,
      if_false, List.append_nil]

/-- A result that is written was the first of its rule version for the candle, and is the only
one afterwards. -/
theorem resultRows_of_write
    (hS : ∀ t, s.db.table? "rule_results" = some t → t.schema = ruleResultsTable)
    (h : s.insertRuleResult candle r now = .ok (true, s')) :
    s.resultRows candle r = [] ∧ s'.resultRows candle r = [r.cells candle now] := by
  obtain ⟨-, t, hT, ⟨hw, -⟩ | ⟨-, ha, rfl⟩⟩ := insertRuleResult_eq_ok hS h
  · cases hw
  have hnone := RuleResult.keyHits_eq_nil_of_admits r candle now (hS t hT) ha
  refine ⟨by simp [Store.resultRows, hT, hnone], ?_⟩
  simp [Store.resultRows, Database.table?_putTable_rows hT, Database.keyHits_append, hnone,
    RuleResult.keyHits_cells r candle now (hS t hT)]

/-- A result is written exactly when the store takes writes and its row passes the insert's
checks. -/
theorem writes_iff
    (hS : ∀ t, s.db.table? "rule_results" = some t → t.schema = ruleResultsTable) :
    s.Writes candle r now ↔ s.writeLocked = false ∧ ∃ t, s.db.table? "rule_results" = some t ∧
      s.db.Admits t (r.cells candle now) .ignore true := by
  constructor
  · rintro ⟨s', h⟩
    obtain ⟨hl, t, hT, ⟨hw, -⟩ | ⟨-, ha, -⟩⟩ := insertRuleResult_eq_ok hS h
    · cases hw
    · exact ⟨hl, t, hT, ha⟩
  · rintro ⟨hl, t, hT, ha⟩
    exact ⟨_, Store.write_of_eq_ok hl (Database.insert_of_admits hT
      (RuleResult.newRow_toRow (hS t hT) r candle now) ha (by decide))⟩

/-- The checks a result's row passes carry over to a store with the same triggers and candles,
whatever the time of evaluation, as long as no stored row there has the result's key. -/
theorem admits_cells_transfer {a b : Store} {t t' : Table} {now' : Instant}
    (ht : t.schema = ruleResultsTable) (ht' : t'.schema = ruleResultsTable)
    (htr : b.db.triggers = a.db.triggers) (hc : b.db.table? "candles" = a.db.table? "candles")
    (ha : a.db.Admits t (r.cells candle now) .ignore true)
    (hk : Database.keyHits t' ruleResultKey (r.keyCells candle) t'.rows = []) :
    b.db.Admits t' (r.cells candle now') .ignore true := by
  refine ha.transfer htr (ht'.trans ht.symm) ?_
    (fun _ => (RuleResult.clashes_cells_eq_nil r candle now' ht' _).2 hk) (fun _ => ?_)
  · rw [RuleResult.checkColumns_cells r candle now' ht,
      RuleResult.checkColumns_cells r candle now ht]
  · have hr := ha.references rfl
    rw [RuleResult.checkReferences_cells r candle now ht] at hr
    rw [RuleResult.checkReferences_cells r candle now' ht']
    simpa only [Database.parentHas, hc] using hr

/-- Whether a result is written carries over to a store with the same lock, triggers and
candles, when the second store has a rule results table wherever the first has one, without a
row of the result's key where the first has none. -/
theorem Writes.transfer {a b : Store} {now' : Instant}
    (hSa : ∀ t, a.db.table? "rule_results" = some t → t.schema = ruleResultsTable)
    (hSb : ∀ t, b.db.table? "rule_results" = some t → t.schema = ruleResultsTable)
    (hl : b.writeLocked = a.writeLocked) (htr : b.db.triggers = a.db.triggers)
    (hc : b.db.table? "candles" = a.db.table? "candles")
    (hk : ∀ t, a.db.table? "rule_results" = some t →
      ∃ t', b.db.table? "rule_results" = some t' ∧
        (Database.keyHits t ruleResultKey (r.keyCells candle) t.rows = [] →
          Database.keyHits t' ruleResultKey (r.keyCells candle) t'.rows = []))
    (hw : a.Writes candle r now) : b.Writes candle r now' := by
  obtain ⟨hla, t, hT, ha⟩ := (writes_iff hSa).1 hw
  obtain ⟨t', hT', himp⟩ := hk t hT
  exact (writes_iff hSb).2 ⟨hl.trans hla, t', hT', admits_cells_transfer (hSa t hT) (hSb t' hT')
    htr hc ha (himp (RuleResult.keyHits_eq_nil_of_admits r candle now (hSa t hT) ha))⟩

/-- Storing a result of another code does not change whether a result is written. -/
theorem writes_of_insert_other_iff
    (hS : ∀ t, s.db.table? "rule_results" = some t → t.schema = ruleResultsTable)
    (h : s.insertRuleResult candle r now = .ok (w, s')) {q : RuleResult}
    (hq : r.ruleCode ≠ q.ruleCode) (now' : Instant) :
    s'.Writes candle q now' ↔ s.Writes candle q now' := by
  have hm := Store.MoreResults.of_insertRuleResult h
  have hS' := hm.grows.schema_eq hS
  obtain ⟨-, t, hT, ⟨-, rfl, -⟩ | ⟨-, -, rfl⟩⟩ := insertRuleResult_eq_ok hS h
  · rfl
  have hhits : Database.keyHits t ruleResultKey (q.keyCells candle)
      (t.rows ++ [(t.nextRowid, r.cells candle now)]) =
        Database.keyHits t ruleResultKey (q.keyCells candle) t.rows := by
    simp [Database.keyHits_append, RuleResult.keyHits_cells r candle now (hS t hT), hq]
  have hT' := Database.table?_putTable_rows hT (t.rows ++ [(t.nextRowid, r.cells candle now)])
    (Nat.max t.nextRowid (t.nextRowid + 1))
  constructor
  · refine Writes.transfer hS' hS rfl rfl hm.candles.symm fun t₁ ht₁ => ⟨t, hT, fun h₀ => ?_⟩
    rw [hT', Option.some.injEq] at ht₁
    subst ht₁
    rwa [Database.keyHits_mk, hhits] at h₀
  · refine Writes.transfer hS hS' rfl rfl hm.candles fun t₁ ht₁ => ⟨_, hT', fun h₀ => ?_⟩
    rw [hT, Option.some.injEq] at ht₁
    subst ht₁
    rwa [Database.keyHits_mk, hhits]

/-! ## Storing a candle's results -/

theorem Store.MoreResults.of_storeResults (rs : RuleResults) :
    s.MoreResults (Evaluation.storeResults s candle now rs) := by
  induction rs generalizing s with
  | nil => exact .refl s
  | cons p rest ih =>
    obtain ⟨k, r₀⟩ := p
    unfold Evaluation.storeResults
    split
    · rename_i w s' h
      exact (Store.MoreResults.of_insertRuleResult h).trans ih
    · exact ih

theorem resultRows_storeResults_other
    (hS : ∀ t, s.db.table? "rule_results" = some t → t.schema = ruleResultsTable)
    {rs : RuleResults} {q : RuleResult} (hq : ∀ p ∈ rs, p.2.ruleCode ≠ q.ruleCode) :
    (Evaluation.storeResults s candle now rs).resultRows candle q = s.resultRows candle q := by
  induction rs generalizing s with
  | nil => rfl
  | cons p rest ih =>
    obtain ⟨k, r₀⟩ := p
    obtain ⟨hq₀, hrest⟩ := List.forall_mem_cons.1 hq
    unfold Evaluation.storeResults
    split
    · rename_i w s' h
      rw [ih ((Store.MoreResults.of_insertRuleResult h).grows.schema_eq hS) hrest,
        resultRows_of_insert_other hS h hq₀]
    · exact ih hS hrest

/-- Storing results of distinct codes stores each one, as the only row of its rule version for
the candle, exactly when its own insert would write on the store the call started from, whatever
happens to the others; otherwise its rows stay as they were. -/
theorem storeResults_resultRows
    (hS : ∀ t, s.db.table? "rule_results" = some t → t.schema = ruleResultsTable)
    {rs : RuleResults} (hcodes : (rs.map (·.2.ruleCode)).Nodup) :
    ∀ p ∈ rs, (s.Writes candle p.2 now →
        (Evaluation.storeResults s candle now rs).resultRows candle p.2 =
          [p.2.cells candle now]) ∧
      (¬ s.Writes candle p.2 now →
        (Evaluation.storeResults s candle now rs).resultRows candle p.2 =
          s.resultRows candle p.2) := by
  induction rs generalizing s with
  | nil => simp
  | cons p rest ih =>
    obtain ⟨k, r₀⟩ := p
    rw [List.map_cons, List.nodup_cons] at hcodes
    obtain ⟨hfresh, hnodup⟩ := hcodes
    have hother : ∀ p ∈ rest, p.2.ruleCode ≠ r₀.ruleCode := fun p hp he =>
      hfresh (he ▸ List.mem_map_of_mem hp)
    intro p hp
    unfold Evaluation.storeResults
    cases hins : s.insertRuleResult candle r₀ now with
    | ok res =>
      obtain ⟨w, s'⟩ := res
      have hS' := (Store.MoreResults.of_insertRuleResult hins).grows.schema_eq hS
      simp only
      rcases List.mem_cons.1 hp with rfl | hp
      · rw [resultRows_storeResults_other hS' hother]
        constructor
        · rintro ⟨s'', h''⟩
          rw [hins] at h''
          cases h''
          exact (resultRows_of_write hS hins).2
        · intro hnw
          cases w
          · obtain ⟨-, t, -, ⟨-, rfl, -⟩ | ⟨hw, -⟩⟩ := insertRuleResult_eq_ok hS hins
            · rfl
            · cases hw
          · exact absurd ⟨s', hins⟩ hnw
      · have hne : r₀.ruleCode ≠ p.2.ruleCode := fun he => hother p hp he.symm
        obtain ⟨ih₁, ih₂⟩ := ih hS' hnodup p hp
        rw [writes_of_insert_other_iff hS hins hne] at ih₁ ih₂
        rw [resultRows_of_insert_other hS hins hne] at ih₂
        exact ⟨ih₁, ih₂⟩
    | error e =>
      simp only
      rcases List.mem_cons.1 hp with rfl | hp
      · rw [resultRows_storeResults_other hS hother]
        refine ⟨fun ⟨s'', h''⟩ => ?_, fun _ => rfl⟩
        rw [hins] at h''
        cases h''
      · exact ih hS hnodup p hp

theorem insertRuleResult_of_skips
    (hS : ∀ t, s.db.table? "rule_results" = some t → t.schema = ruleResultsTable)
    (hl : s.writeLocked = false) {t : Table} (hT : s.db.table? "rule_results" = some t)
    (hs : s.db.Skips t (r.cells candle now) .ignore) :
    s.insertRuleResult candle r now = .ok (false, s) :=
  Store.write_of_eq_ok hl
    (Database.insert_of_skips hT (RuleResult.newRow_toRow (hS t hT) r candle now) hs)

/-- A result whose rule version has a row for the candle is skipped, at any time of
evaluation, unless a trigger acts first. -/
theorem skips_of_stored {t : Table} (hT : s.db.table? "rule_results" = some t)
    (ht : t.schema = ruleResultsTable)
    (hb : s.db.triggerAction t.schema.name .before .insert [] = none)
    (hstored : s.resultRows candle r ≠ []) : s.db.Skips t (r.cells candle now) .ignore := by
  refine .inr ⟨hb, rfl, .inr fun hnil => hstored ?_⟩
  rw [RuleResult.clashes_cells_eq_nil r candle now ht] at hnil
  simp [Store.resultRows, hT, hnil]

theorem storeResults_eq_self {rs : RuleResults}
    (h : ∀ p ∈ rs, ∀ w s', s.insertRuleResult candle p.2 now = .ok (w, s') → s' = s) :
    Evaluation.storeResults s candle now rs = s := by
  induction rs with
  | nil => rfl
  | cons p rest ih =>
    obtain ⟨k, r₀⟩ := p
    obtain ⟨h₀, hrest⟩ := List.forall_mem_cons.1 h
    unfold Evaluation.storeResults
    split
    · rename_i w s' hins
      cases h₀ w s' hins
      exact ih hrest
    · exact ih hrest

/-- Once a candle's results of distinct codes are stored, inserting any of them again, at any
time of evaluation, writes nothing: a write then would have been a write on the store they
were stored into, and the row it stored leaves no room for another. -/
theorem insertRuleResult_after_store
    (hS : ∀ t, s.db.table? "rule_results" = some t → t.schema = ruleResultsTable)
    {rs : RuleResults} (hcodes : (rs.map (·.2.ruleCode)).Nodup) {p : String × RuleResult}
    (hp : p ∈ rs) {now' : Instant}
    (h : (Evaluation.storeResults s candle now rs).insertRuleResult candle p.2 now' =
      .ok (w, s')) :
    w = false ∧ s' = Evaluation.storeResults s candle now rs := by
  have hm : s.MoreResults (Evaluation.storeResults s candle now rs) :=
    Store.MoreResults.of_storeResults rs
  have hS₁ := hm.grows.schema_eq hS
  obtain ⟨-, t₁, hT₁, ⟨hw, rfl, -⟩ | ⟨rfl, ha₁, -⟩⟩ := insertRuleResult_eq_ok hS₁ h
  · exact ⟨hw, rfl⟩
  exfalso
  have hk : ∀ t₁,
      (Evaluation.storeResults s candle now rs).db.table? "rule_results" = some t₁ →
      ∃ t, s.db.table? "rule_results" = some t ∧
        (Database.keyHits t₁ ruleResultKey (p.2.keyCells candle) t₁.rows = [] →
          Database.keyHits t ruleResultKey (p.2.keyCells candle) t.rows = []) := by
    intro t₁ hT₁
    obtain ⟨t, hT⟩ := hm.grows.exists_table' hT₁
    obtain ⟨hschema, hsub⟩ := hm.grows.rel hT hT₁
    exact ⟨t, hT, Database.keyHits_eq_nil_of_subset hschema hsub⟩
  have hwrites : s.Writes candle p.2 now :=
    Writes.transfer hS₁ hS hm.locked.symm hm.grows.triggers.symm hm.candles.symm hk ⟨_, h⟩
  have hstored := (storeResults_resultRows hS hcodes p hp).1 hwrites
  have hnone := RuleResult.keyHits_eq_nil_of_admits p.2 candle now' (hS₁ t₁ hT₁) ha₁
  simp [Store.resultRows, hT₁, hnone] at hstored

/-- Once a candle's results of distinct codes are stored, each one whose first insert went
through, written or skipped, is skipped by every later insert, at any time of evaluation. -/
theorem insertRuleResult_again_after_store
    (hS : ∀ t, s.db.table? "rule_results" = some t → t.schema = ruleResultsTable)
    {rs : RuleResults} (hcodes : (rs.map (·.2.ruleCode)).Nodup) {p : String × RuleResult}
    (hp : p ∈ rs) (hfirst : s.insertRuleResult candle p.2 now = .ok (w, s')) (now' : Instant) :
    (Evaluation.storeResults s candle now rs).insertRuleResult candle p.2 now' =
      .ok (false, Evaluation.storeResults s candle now rs) := by
  have hm : s.MoreResults (Evaluation.storeResults s candle now rs) :=
    Store.MoreResults.of_storeResults rs
  have hS₁ := hm.grows.schema_eq hS
  obtain ⟨hl, t, hT, ⟨-, -, hs⟩ | ⟨rfl, ha, -⟩⟩ := insertRuleResult_eq_ok hS hfirst
  all_goals obtain ⟨t₁, hT₁⟩ := hm.grows.exists_table hT
  all_goals refine insertRuleResult_of_skips hS₁ (hm.locked.trans hl) hT₁ ?_
  · refine hs.grow hm.grows hT hT₁ ?_ ?_
    · rw [RuleResult.checkColumns_cells _ _ _ (hS t hT),
        RuleResult.checkColumns_cells _ _ _ (hS t hT)]
    · rw [RuleResult.uniqueKeys_of_schema (hS t hT), List.forall_mem_singleton,
        RuleResult.key_cells _ _ _ (hS t hT), RuleResult.key_cells _ _ _ (hS t hT)]
  · refine skips_of_stored hT₁ (hS₁ t₁ hT₁) ?_ ?_
    · rw [Database.triggerAction_of_triggers hm.grows.triggers, hS₁ t₁ hT₁, ← hS t hT]
      exact ha.before
    · rw [(storeResults_resultRows hS hcodes p hp).1 ⟨s', hfirst⟩]
      exact List.cons_ne_nil _ _

end Store

/-! ## Evaluating a candle again -/

section Reads

variable {s s' : Store}

theorem Store.getCandle_of_candles (hc : s'.db.table? "candles" = s.db.table? "candles")
    (id : Uuid) : s'.getCandle id = s.getCandle id := by
  simp only [Store.getCandle, Rows.selectOrdered, Database.requireTable, hc]

theorem Store.getIndicators_of_indicators
    (hi : s'.db.table? "indicators" = s.db.table? "indicators") (id : Uuid) :
    s'.getIndicators id = s.getIndicators id := by
  simp only [Store.getIndicators, Rows.selectOrdered, Database.requireTable, hi]

theorem Store.getPreviousIndicators_of_tables
    (hc : s'.db.table? "candles" = s.db.table? "candles")
    (hi : s'.db.table? "indicators" = s.db.table? "indicators") (c : Candle) :
    s'.getPreviousIndicators c = s.getPreviousIndicators c := by
  simp only [Store.getPreviousIndicators, Database.requireTable, hc, hi]

end Reads

namespace Evaluation

/-- Once its reads succeed, evaluating a candle returns every rule's result and stores them:
a failed write never ends the evaluation. -/
theorem evaluateCandle_of_reads {s : Store} {id : Uuid} {now : Instant} {candle : Candle}
    {ind : Indicators} {previous : Option Indicators} (hc : s.getCandle id = .ok candle)
    (hi : s.getIndicators id = .ok (some ind))
    (hp : s.getPreviousIndicators candle = .ok previous) :
    evaluateCandle s id now =
      .ok (evaluateAllRules ⟨candle.close, ind.ema50, ind.ema200, previous.bind (·.ema50)⟩,
        storeResults s id now
          (evaluateAllRules ⟨candle.close, ind.ema50, ind.ema200, previous.bind (·.ema50)⟩)) := by
  simp only [evaluateCandle, hc, hi, hp, ok_bind]
  rfl

theorem evaluateAllRules_codes_nodup (x : EvaluationInput) :
    ((evaluateAllRules x).map (·.2.ruleCode)).Nodup := by
  rw [evaluateAllRules_eq]
  simp [trendBearish, trendBullish]

/-- Evaluating a stored candle again returns the same results and leaves the store as the first
evaluation left it, whenever it runs: no insert of a result writes again, and every result
whose first insert went through is skipped without an error. Each result was stored by the
first evaluation, as the one row of its rule version for the candle, exactly when its own
insert into the store the evaluation started from would write, whatever became of the other
results; otherwise the rows of its rule version are those stored before. -/
theorem evaluateCandle_idempotent {s s₁ : Store} {id : Uuid} {now : Instant}
    {results : RuleResults}
    (hS : ∀ t, s.db.table? "rule_results" = some t → t.schema = ruleResultsTable)
    (h : evaluateCandle s id now = .ok (results, s₁)) :
    (∀ now', evaluateCandle s₁ id now' = .ok (results, s₁)) ∧
      ∀ p ∈ results,
        (∀ now' w s', s₁.insertRuleResult id p.2 now' = .ok (w, s') → w = false ∧ s' = s₁) ∧
        ((∃ w s', s.insertRuleResult id p.2 now = .ok (w, s')) →
          ∀ now', s₁.insertRuleResult id p.2 now' = .ok (false, s₁)) ∧
        (s.Writes id p.2 now → s₁.resultRows id p.2 = [p.2.cells id now]) ∧
        (¬ s.Writes id p.2 now → s₁.resultRows id p.2 = s.resultRows id p.2) := by
  obtain ⟨candle, ind, previous, hc, hi, hp, rfl, rfl⟩ := evaluateCandle_eq_ok h
  set results := evaluateAllRules ⟨candle.close, ind.ema50, ind.ema200, previous.bind (·.ema50)⟩
  have hcodes : (results.map (·.2.ruleCode)).Nodup := evaluateAllRules_codes_nodup _
  have hm : s.MoreResults (storeResults s id now results) := Store.MoreResults.of_storeResults _
  refine ⟨fun now' => ?_, fun p hp =>
    ⟨fun now' w s' h' => insertRuleResult_after_store hS hcodes hp h',
      fun ⟨w, s', h'⟩ => insertRuleResult_again_after_store hS hcodes hp h',
      (storeResults_resultRows hS hcodes p hp).1, (storeResults_resultRows hS hcodes p hp).2⟩⟩
  have hagain : storeResults (storeResults s id now results) id now' results =
      storeResults s id now results :=
    storeResults_eq_self fun p hp w s' h' => (insertRuleResult_after_store hS hcodes hp h').2
  rw [evaluateCandle_of_reads (Store.getCandle_of_candles hm.candles id ▸ hc)
    (Store.getIndicators_of_indicators hm.indicators id ▸ hi)
    (Store.getPreviousIndicators_of_tables hm.candles hm.indicators candle ▸ hp), hagain]

/-- In a fresh store, a candle is written with its indicators and evaluated; evaluating it again
changes nothing. -/
theorem evaluateCandle_idempotent_in_fresh_store :
    ∃ (s₀ s s₁ : Store) (results : RuleResults),
      Store.fresh.insertCandle sampleCandle = .ok (true, s₀) ∧
      s₀.saveIndicators sampleIndicators = .ok s ∧
      (∀ t, s.db.table? "rule_results" = some t → t.schema = ruleResultsTable) ∧
      evaluateCandle s sampleCandle.id Instant.epoch = .ok (results, s₁) ∧
      (∀ now', evaluateCandle s₁ sampleCandle.id now' = .ok (results, s₁)) ∧
        ∀ p ∈ results,
          (∀ now' w s', s₁.insertRuleResult sampleCandle.id p.2 now' = .ok (w, s') →
            w = false ∧ s' = s₁) ∧
          ((∃ w s', s.insertRuleResult sampleCandle.id p.2 Instant.epoch = .ok (w, s')) →
            ∀ now', s₁.insertRuleResult sampleCandle.id p.2 now' = .ok (false, s₁)) ∧
          (s.Writes sampleCandle.id p.2 Instant.epoch →
            s₁.resultRows sampleCandle.id p.2 = [p.2.cells sampleCandle.id Instant.epoch]) ∧
          (¬ s.Writes sampleCandle.id p.2 Instant.epoch →
            s₁.resultRows sampleCandle.id p.2 = s.resultRows sampleCandle.id p.2) := by
  have hp : Store.getPreviousIndicators
      ⟨(Store.fresh.db.putTable ⟨candlesTable, [(1, sampleCandle.cells)], 2⟩).putTable
        ⟨indicatorsTable, [(1, sampleIndicators.cells)], 2⟩, false⟩ sampleCandle.stored =
        .ok none := by
    have hnone : (Store.getPreviousIndicators
        ⟨(Store.fresh.db.putTable ⟨candlesTable, [(1, sampleCandle.cells)], 2⟩).putTable
          ⟨indicatorsTable, [(1, sampleIndicators.cells)], 2⟩, false⟩
          sampleCandle.stored).toOption.map Option.isNone = some true := by
      decide +kernel
    revert hnone
    rcases Store.getPreviousIndicators _ sampleCandle.stored with _ | _ | _ <;>
      simp [Except.toOption]
  have htr : Store.fresh.db.triggers = [] := JournalRows.holds_fresh.triggers
  have hC : Store.fresh.db.table? "candles" = some (Table.empty candlesTable) :=
    Store.fresh_table? candlesTable (by simp [journalSchema])
  have hI : Store.fresh.db.table? "indicators" = some (Table.empty indicatorsTable) :=
    Store.fresh_table? indicatorsTable (by simp [journalSchema])
  have hR : Store.fresh.db.table? "rule_results" = some (Table.empty ruleResultsTable) :=
    Store.fresh_table? ruleResultsTable (by simp [journalSchema])
  set db₁ := Store.fresh.db.putTable ⟨candlesTable, [(1, sampleCandle.cells)], 2⟩ with hdb₁
  have hcandle : Store.fresh.insertCandle sampleCandle = .ok (true, ⟨db₁, false⟩) :=
    Store.write_of_eq_ok rfl (Database.insert_eq_ok_of_empty htr hC
      (Candle.newRow_toRow rfl sampleCandle) (by decide +kernel) (fun _ => by decide +kernel))
  have hI₁ : db₁.table? "indicators" = some (Table.empty indicatorsTable) := by
    rw [hdb₁, Database.table?_putTable_of_ne (by decide +kernel), hI]
  set s : Store := ⟨db₁.putTable ⟨indicatorsTable, [(1, sampleIndicators.cells)], 2⟩, false⟩
    with hs
  have hind : db₁.insert "indicators" sampleIndicators.toRow .replace true = .ok (s.db, true) :=
    Database.insert_eq_ok_of_empty htr hI₁ (Indicators.newRow_toRow rfl sampleIndicators)
      (by decide +kernel) (fun _ => by decide +kernel)
  have hsave : Store.saveIndicators ⟨db₁, false⟩ sampleIndicators = .ok s := by
    rw [Store.saveIndicators, Store.write_of_eq_ok rfl hind]
    rfl
  have hc : s.getCandle sampleCandle.id = .ok sampleCandle.stored := by
    have hkeep : s.db.table? "candles" = (⟨db₁, false⟩ : Store).db.table? "candles" :=
      Database.table?_putTable_of_ne (by decide +kernel)
    rw [Store.getCandle_of_candles hkeep]
    exact getCandle_insertCandle htr (by rw [hC]; rfl) (by unfold Instant.Representable; decide)
      hcandle
  have hi : s.getIndicators sampleCandle.id = .ok (some sampleIndicators.stored) := by
    rw [show sampleCandle.id = sampleIndicators.candleId from rfl]
    have htr₁ : (⟨db₁, false⟩ : Store).db.triggers = [] := htr
    exact getIndicators_saveIndicators htr₁ (by rw [hI₁]; rfl) hsave
  have hS : ∀ t, s.db.table? "rule_results" = some t → t.schema = ruleResultsTable := by
    intro t ht
    rw [hs, Database.table?_putTable_of_ne (by decide +kernel), hdb₁,
      Database.table?_putTable_of_ne (by decide +kernel), hR] at ht
    cases ht
    rfl
  have h : evaluateCandle s sampleCandle.id Instant.epoch = _ := evaluateCandle_of_reads hc hi hp
  exact ⟨_, s, _, _, hcandle, hsave, hS, h, evaluateCandle_idempotent hS h⟩

end Evaluation

end ForexJournal
