import Mathlib
import ForexJournal.Proofs.ReadBack

/-!
# What unique keys make of repeated inserts

An insert runs a fixed series of checks before it writes its row: the trigger that runs before
it, the not-null and column checks, the unique keys, the references and the trigger that runs
after it. A row that passes all of them is written after the rows the table keeps
(`Database.Admits`). A row that a trigger skips, or in ignore mode one that fails a column check
or clashes with a stored row on a unique key, is not written, and the database stays as it was
(`Database.Skips`). `Database.insert_eq_ok_cases` says that every successful insert did one of
the two.

Inserts in ignore or abort mode only add rows, so the table they write grows (`Database.Grows`):
the triggers stay, and the table keeps its schema and every row it had. A row that is skipped
stays skipped as its table grows (`Database.Skips.grow`), and a row that agrees with a stored
row on a unique key is skipped (`Database.skips_of_mem`): in ignore mode a key is written at
most once.
-/

namespace ForexJournal

namespace Database

/-- The checks an insert makes before it writes its row, in its order: no trigger runs before
it, the row passes the not-null and column checks, it clashes with no stored row unless
clashing rows are replaced, its references hold when they are checked, and no trigger after
it fails it. -/
structure Admits (db : Database) (t : Table) (row : Row) (mode : ConflictMode) (fk : Bool) :
    Prop where
  before : db.triggerAction t.schema.name .before .insert [] = none
  columns : checkColumns t row = none
  unique : mode ≠ .replace → clashes t row t.rows = []
  references : fk = true → db.checkReferences t row (t.schema.columns.map (·.name)) = .ok ()
  after : ∀ m, db.triggerAction t.schema.name .after .insert [] ≠ some (.abort m)

/-- Why an insert writes nothing and leaves the database as it was: a trigger before it skips
the row, or, in ignore mode, the row fails a column check or clashes with a stored row. -/
def Skips (db : Database) (t : Table) (row : Row) (mode : ConflictMode) : Prop :=
  db.triggerAction t.schema.name .before .insert [] = some .ignore ∨
    db.triggerAction t.schema.name .before .insert [] = none ∧ mode = .ignore ∧
      (checkColumns t row ≠ none ∨ clashes t row t.rows ≠ [])

/-! ## What an insert does -/

section Insert

variable {db db' : Database} {table : String} {values : List (String × SqlValue)}
  {mode : ConflictMode} {fk : Bool} {w : Bool}

/-- A successful insert found its table and made its row, and then either skipped the row and
left the database, or admitted it and put back its table with the row after the rows it keeps,
which are all of them unless clashing rows are replaced. -/
theorem insert_eq_ok_cases (h : db.insert table values mode fk = .ok (db', w)) :
    ∃ t rowid row, db.table? table = some t ∧ t.newRow values = .ok (rowid, row) ∧
      (w = false ∧ db' = db ∧ db.Skips t row mode ∨
        w = true ∧ db.Admits t row mode fk ∧ ∃ kept, (mode ≠ .replace → kept = t.rows) ∧
          db' = db.putTable ⟨t.schema, kept ++ [(rowid, row)],
            Nat.max t.nextRowid (rowid + 1)⟩) := by
  unfold insert at h
  simp only [bind, Except.bind] at h
  split at h
  · contradiction
  rename_i t hT
  rw [requireTable_eq_ok] at hT
  split at h
  · contradiction
  rename_i rowid row hrow
  obtain ⟨rowid, row⟩ := row
  refine ⟨t, rowid, row, hT, hrow, ?_⟩
  cases hb : db.triggerAction t.schema.name .before .insert [] with
  | some a =>
    cases a with
    | ignore =>
      simp [hb, pure, Except.pure] at h
      exact .inl ⟨h.2, h.1.symm, .inl hb⟩
    | abort m => simp [hb, throw, throwThe, MonadExceptOf.throw] at h
  | none =>
    cases hc : checkColumns t row with
    | some m =>
      cases mode <;> simp [hb, hc, pure, Except.pure, throw, throwThe, MonadExceptOf.throw] at h
      exact .inl ⟨h.2, h.1.symm, .inr ⟨hb, rfl, .inl (by simp [hc])⟩⟩
    | none =>
      cases hk : clashes t row t.rows with
      | cons k ks =>
        cases mode
        · simp [hb, hc, hk, throw, throwThe, MonadExceptOf.throw] at h
        · simp [hb, hc, hk, pure, Except.pure] at h
          exact .inl ⟨h.2, h.1.symm, .inr ⟨hb, rfl, .inr (by simp [hk])⟩⟩
        · cases fk <;> simp [hb, hc, hk, pure, Except.pure] at h
          · split at h
            · simp [throw, throwThe, MonadExceptOf.throw] at h
            · rename_i ha
              simp only [Except.ok.injEq, Prod.mk.injEq] at h
              exact .inr ⟨h.2.symm, ⟨hb, hc, nofun, nofun, ha⟩, _, nofun, h.1.symm⟩
          · split at h
            · contradiction
            rename_i hr
            split at h
            · simp [throw, throwThe, MonadExceptOf.throw] at h
            · rename_i ha
              simp only [Except.ok.injEq, Prod.mk.injEq] at h
              exact .inr ⟨h.2.symm, ⟨hb, hc, nofun, fun _ => hr, ha⟩, _, nofun, h.1.symm⟩
      | nil =>
        cases fk <;> simp [hb, hc, hk, pure, Except.pure] at h
        · split at h
          · simp [throw, throwThe, MonadExceptOf.throw] at h
          · rename_i ha
            simp only [Except.ok.injEq, Prod.mk.injEq] at h
            exact .inr ⟨h.2.symm, ⟨hb, hc, fun _ => hk, nofun, ha⟩, t.rows, fun _ => rfl,
              h.1.symm⟩
        · split at h
          · contradiction
          rename_i hr
          split at h
          · simp [throw, throwThe, MonadExceptOf.throw] at h
          · rename_i ha
            simp only [Except.ok.injEq, Prod.mk.injEq] at h
            exact .inr ⟨h.2.symm, ⟨hb, hc, fun _ => hk, fun _ => hr, ha⟩, t.rows, fun _ => rfl,
              h.1.symm⟩

variable {t : Table} {rowid : Nat} {row : Row}

theorem insert_of_skips (hT : db.table? table = some t) (hrow : t.newRow values = .ok (rowid, row))
    (hs : db.Skips t row mode) : db.insert table values mode fk = .ok (db, false) := by
  unfold insert
  simp only [bind, Except.bind, requireTable, hT, hrow]
  rcases hs with hb | ⟨hb, rfl, hc | hk⟩
  · simp [hb, pure, Except.pure]
  · obtain ⟨m, hm⟩ := Option.ne_none_iff_exists'.1 hc
    simp [hb, hm, pure, Except.pure]
  · obtain ⟨k, ks, hks⟩ := List.exists_cons_of_ne_nil hk
    cases hc : checkColumns t row <;> simp [hb, hks, pure, Except.pure]

/-- An insert that does not replace rows writes a row that passes its checks after all the
stored rows. -/
theorem insert_of_admits (hT : db.table? table = some t)
    (hrow : t.newRow values = .ok (rowid, row)) (ha : db.Admits t row mode fk)
    (hm : mode ≠ .replace) :
    db.insert table values mode fk =
      .ok (db.putTable ⟨t.schema, t.rows ++ [(rowid, row)], Nat.max t.nextRowid (rowid + 1)⟩,
        true) := by
  unfold insert
  simp only [bind, Except.bind, requireTable, hT, hrow, ha.before, ha.columns, ha.unique hm]
  have hafter : ∀ m, db.triggerAction t.schema.name .after .insert [] ≠ some (.abort m) := ha.after
  cases hA : db.triggerAction t.schema.name .after .insert [] with
  | some a =>
    cases a with
    | ignore => cases fk <;> simp [ha.references, pure, Except.pure]
    | abort m => exact absurd hA (hafter m)
  | none => cases fk <;> simp [ha.references, pure, Except.pure]

end Insert

/-! ## Keys -/

/-- The rows among `rows` whose columns `key` hold the values `vals`, in the database's sense of
equal. -/
def keyHits (t : Table) (key : List String) (vals : List SqlValue) (rows : List (Nat × Row)) :
    List (Nat × Row) :=
  rows.filter fun e => (key.zip vals).all fun kv => SqlValue.sqlEq (t.get e.2 kv.1) kv.2

section Keys

variable {t t' : Table} {row row' : Row} {rows rows' : List (Nat × Row)}

/-- A row clashes with none of `rows` exactly when, on each unique key without a null in the
row, none of them holds the row's values. -/
theorem clashes_eq_nil_iff : clashes t row rows = [] ↔ ∀ key ∈ t.schema.uniqueKeys,
    (key.map (t.get row)).any (· == .null) = false →
      keyHits t key (key.map (t.get row)) rows = [] := by
  unfold clashes
  rw [List.filterMap_eq_nil_iff]
  refine forall₂_congr fun key _ => ?_
  dsimp only
  split_ifs with hnull hnone
  · simp [hnull]
  · exact iff_of_true rfl fun _ => List.isEmpty_iff.1 hnone
  · simp only [false_iff, Bool.not_eq_true] at hnull ⊢
    exact fun h => hnone (List.isEmpty_iff.2 (h hnull))

theorem clashes_ne_nil_mono (h : clashes t row rows ≠ []) (hsub : rows ⊆ rows') :
    clashes t row rows' ≠ [] := by
  rw [Ne, clashes_eq_nil_iff] at h ⊢
  intro h'
  refine h fun key hkey hnull => List.eq_nil_iff_forall_not_mem.2 fun e he => ?_
  exact List.eq_nil_iff_forall_not_mem.1 (h' key hkey hnull) e (List.filter_subset _ hsub he)

theorem clashes_ne_nil_of_mem {key : List String} (hkey : key ∈ t.schema.uniqueKeys)
    {e : Nat × Row} (he : e ∈ rows)
    (hmatch : ∀ k ∈ key, SqlValue.sqlEq (t.get e.2 k) (t.get row k) = true) :
    clashes t row rows ≠ [] := by
  rw [Ne, clashes_eq_nil_iff]
  intro h
  have hnull : (key.map (t.get row)).any (· == .null) = false := by
    simp only [List.any_eq_false, List.mem_map, beq_iff_eq]
    rintro _ ⟨k, hk, rfl⟩ hv
    simpa [hv, SqlValue.sqlEq] using hmatch k hk
  have hhit : e ∈ keyHits t key (key.map (t.get row)) rows := by
    refine List.mem_filter.2 ⟨he, List.all_eq_true.2 fun kv hkv => ?_⟩
    rw [← List.map_prod_left_eq_zip, List.mem_map] at hkv
    obtain ⟨k, hk, rfl⟩ := hkv
    exact hmatch k hk
  simp [h key hkey hnull] at hhit

theorem clashes_of_key (h : ∀ key ∈ t.schema.uniqueKeys, key.map (t.get row') = key.map (t.get row))
    (rows : List (Nat × Row)) : clashes t row' rows = clashes t row rows := by
  unfold clashes
  exact List.filterMap_congr fun key hkey => by simp only [h key hkey]

end Keys

/-! ## Tables of one schema -/

theorem Table.get_of_schema {t t' : Table} (h : t'.schema = t.schema) : t'.get = t.get := by
  funext row col
  simp [Table.get, h]

theorem checkColumns_of_schema {t t' : Table} (h : t'.schema = t.schema) (row : Row) :
    checkColumns t' row = checkColumns t row := by
  simp only [checkColumns, h, Table.get_of_schema h]

theorem clashes_of_schema {t t' : Table} (h : t'.schema = t.schema) (row : Row)
    (rows : List (Nat × Row)) : clashes t' row rows = clashes t row rows := by
  simp only [clashes, h, Table.get_of_schema h]

@[simp] theorem keyHits_mk (t : Table) (rows : List (Nat × Row)) (n : Nat) :
    keyHits ⟨t.schema, rows, n⟩ = keyHits t :=
  rfl

theorem triggerAction_of_triggers {db db' : Database} (h : db'.triggers = db.triggers) :
    db'.triggerAction = db.triggerAction := by
  funext table timing event changed
  simp only [triggerAction, h]

theorem table?_putTable_rows {db : Database} {name : String} {t : Table}
    (hT : db.table? name = some t) (rows : List (Nat × Row)) (n : Nat) :
    (db.putTable ⟨t.schema, rows, n⟩).table? name = some ⟨t.schema, rows, n⟩ :=
  table?_putTable_self hT _ rfl

/-! ## Growing tables -/

/-- `db'` holds what `db` holds of the table `name`, and maybe more rows: the triggers are the
same, and the table is missing from both or has one schema in both, with every row of `db`
among those of `db'`. -/
structure Grows (name : String) (db db' : Database) : Prop where
  triggers : db'.triggers = db.triggers
  table : Option.Rel (fun t t' : Table => t'.schema = t.schema ∧ t.rows ⊆ t'.rows)
    (db.table? name) (db'.table? name)

namespace Grows

variable {name table : String} {db db' db'' : Database} {t t' : Table}

theorem refl (name : String) (db : Database) : Grows name db db := by
  refine ⟨rfl, ?_⟩
  cases db.table? name with
  | none => exact .none
  | some t => exact .some ⟨rfl, List.Subset.refl _⟩

theorem trans (h₁ : Grows name db db') (h₂ : Grows name db' db'') : Grows name db db'' := by
  refine ⟨h₂.triggers.trans h₁.triggers, ?_⟩
  have r₁ := h₁.table
  have r₂ := h₂.table
  revert r₁ r₂
  generalize db.table? name = a, db'.table? name = b, db''.table? name = c
  intro r₁ r₂
  cases r₁ with
  | none => cases r₂; exact .none
  | some h =>
    cases r₂ with
    | some h' => exact .some ⟨h'.1.trans h.1, List.Subset.trans h.2 h'.2⟩

theorem rel (hg : Grows name db db') (hT : db.table? name = some t)
    (hT' : db'.table? name = some t') : t'.schema = t.schema ∧ t.rows ⊆ t'.rows := by
  have r := hg.table
  rw [hT, hT'] at r
  cases r with
  | some h => exact h

theorem exists_table (hg : Grows name db db') (hT : db.table? name = some t) :
    ∃ t', db'.table? name = some t' := by
  have r := hg.table
  rw [hT] at r
  cases hT' : db'.table? name with
  | none => rw [hT'] at r; cases r
  | some t' => exact ⟨t', rfl⟩

theorem exists_table' (hg : Grows name db db') (hT' : db'.table? name = some t') :
    ∃ t, db.table? name = some t := by
  have r := hg.table
  rw [hT'] at r
  cases hT : db.table? name with
  | none => rw [hT] at r; cases r
  | some t => exact ⟨t, rfl⟩

theorem schema_eq {d : TableDef} (hg : Grows name db db')
    (hS : ∀ t, db.table? name = some t → t.schema = d) :
    ∀ t', db'.table? name = some t' → t'.schema = d := by
  intro t' hT'
  obtain ⟨t, hT⟩ := hg.exists_table' hT'
  rw [(hg.rel hT hT').1, hS t hT]

variable {values : List (String × SqlValue)} {mode : ConflictMode} {fk w : Bool}

theorem of_insert (h : db.insert name values mode fk = .ok (db', w)) (hm : mode ≠ .replace) :
    Grows name db db' := by
  obtain ⟨t, rowid, row, hT, -, ⟨-, rfl, -⟩ | ⟨-, -, kept, hkept, rfl⟩⟩ := insert_eq_ok_cases h
  · exact refl _ _
  · refine ⟨rfl, ?_⟩
    rw [hT, table?_putTable_rows hT, hkept hm]
    exact .some ⟨rfl, List.subset_append_left _ _⟩

theorem of_insert_other (h : db.insert table values mode fk = .ok (db', w))
    (hn : sameName table name = false) : Grows name db db' := by
  refine ⟨insert_triggers h, ?_⟩
  rw [insert_table?_of_ne h hn]
  exact (refl name db).table

end Grows

section Moves

variable {name : String} {db db' : Database} {t t' : Table} {row row' : Row}

/-- A skipped row stays skipped as its table grows, and so does a row with the same column
checks and the same values on the unique keys. -/
theorem Skips.grow (hs : db.Skips t row .ignore) (hg : Grows name db db')
    (hT : db.table? name = some t) (hT' : db'.table? name = some t')
    (hcol : checkColumns t row' = checkColumns t row)
    (hkey : ∀ key ∈ t.schema.uniqueKeys, key.map (t.get row') = key.map (t.get row)) :
    db'.Skips t' row' .ignore := by
  obtain ⟨hschema, hsub⟩ := hg.rel hT hT'
  unfold Skips
  rw [triggerAction_of_triggers hg.triggers, hschema, checkColumns_of_schema hschema, hcol,
    clashes_of_schema hschema, clashes_of_key hkey]
  rcases hs with hb | ⟨hb, -, hc | hk⟩
  · exact .inl hb
  · exact .inr ⟨hb, rfl, .inl hc⟩
  · exact .inr ⟨hb, rfl, .inr (clashes_ne_nil_mono hk hsub)⟩

/-- With no trigger before the insert, a row that agrees with a stored row on every column of a
unique key is skipped in ignore mode. -/
theorem skips_of_mem (hb : db.triggerAction t.schema.name .before .insert [] = none)
    (key : List String) (hkey : key ∈ t.schema.uniqueKeys) {e : Nat × Row} (he : e ∈ t.rows)
    (hmatch : ∀ k ∈ key, SqlValue.sqlEq (t.get e.2 k) (t.get row k) = true) :
    db.Skips t row .ignore :=
  .inr ⟨hb, rfl, .inr (clashes_ne_nil_of_mem hkey he hmatch)⟩

/-- The checks of an insert carry over to another database with the same triggers, a table of
the same schema and a row with the same column checks, once its keys and references are
checked there. -/
theorem Admits.transfer {mode : ConflictMode} {fk : Bool} (ha : db.Admits t row mode fk)
    (htr : db'.triggers = db.triggers) (hschema : t'.schema = t.schema)
    (hcol : checkColumns t row' = checkColumns t row)
    (hk : mode ≠ .replace → clashes t' row' t'.rows = [])
    (hr : fk = true → db'.checkReferences t' row' (t'.schema.columns.map (·.name)) = .ok ()) :
    db'.Admits t' row' mode fk where
  before := by rw [triggerAction_of_triggers htr, hschema]; exact ha.before
  columns := by rw [checkColumns_of_schema hschema, hcol]; exact ha.columns
  unique := hk
  references := hr
  after := by rw [triggerAction_of_triggers htr, hschema]; exact ha.after

end Moves

end Database

end ForexJournal
