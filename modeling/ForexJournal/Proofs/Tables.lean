import Mathlib
import ForexJournal.Store.Rows
/-!
# What a statement does to the tables

The journal writes through three statements: an insert, an update of the rows a condition
picks, and a selection. On a database without triggers, a successful insert in abort mode
appends its row to its table and a successful update with a condition and values that cannot
fail replaces the rows it picks in place; any successful insert leaves the tables of other
names alone. A selection is its table's rows in row-number order, filtered, ordered and
projected.

Tables are found by name without regard to case, so two names pick the same table exactly
when they are the same name in lowercase; putting a table back changes what a name finds only
for names of that table.
-/
namespace ForexJournal

theorem sameName_iff {a b : String} :
    sameName a b = true ↔ a.map Char.toLower = b.map Char.toLower := by
  simp [sameName]

theorem sameName_refl (a : String) : sameName a a = true := sameName_iff.2 rfl

theorem sameName_symm {a b : String} (h : sameName a b = true) : sameName b a = true :=
  sameName_iff.2 (sameName_iff.1 h).symm

theorem sameName_trans {a b c : String} (h₁ : sameName a b = true) (h₂ : sameName b c = true) :
    sameName a c = true :=
  sameName_iff.2 ((sameName_iff.1 h₁).trans (sameName_iff.1 h₂))

/-- The table with one more row, numbered `rowid`, at the end. -/
def Table.withRow (t : Table) (rowid : Nat) (row : Row) : Table :=
  { t with rows := t.rows ++ [(rowid, row)], nextRowid := max t.nextRowid (rowid + 1) }

/-- The row an update whose condition and values cannot fail makes of an old row. -/
def Table.updated (t : Table) (vals : List (String × SqlValue)) (p : Row → Bool) (e : Nat × Row) :
    Nat × Row :=
  if p e.2 then (e.1, t.schema.assignedRow vals e.2) else e

namespace Database

theorem table?_putTable (db : Database) (t : Table) (n : String) :
    (db.putTable t).table? n =
      if sameName t.schema.name n then (db.table? n).map fun _ => t else db.table? n := by
  have hfind : ∀ u : Table, sameName
      (if sameName u.schema.name t.schema.name then t else u).schema.name n =
        sameName u.schema.name n := by
    intro u
    split_ifs with hu
    · cases hn : sameName u.schema.name n
      · cases htn : sameName t.schema.name n
        · rfl
        · exact absurd (sameName_trans hu htn) (by simp [hn])
      · exact sameName_trans (sameName_symm hu) hn
    · rfl
  unfold table? putTable
  simp only [List.find?_map, Function.comp_def, hfind]
  cases hu : db.tables.find? (fun u => sameName u.schema.name n) with
  | none => simp
  | some u =>
    have hun := List.find?_some hu
    by_cases htn : sameName t.schema.name n = true
    · simp [htn, sameName_trans hun (sameName_symm htn)]
    · have hut : sameName u.schema.name t.schema.name = false := by
        cases h : sameName u.schema.name t.schema.name
        · rfl
        · exact absurd (sameName_trans (sameName_symm h) hun) htn
      simp [htn, hut]

theorem requireTable_eq_ok {db : Database} {name : String} {t : Table} :
    db.requireTable name = .ok t ↔ db.table? name = some t := by
  unfold requireTable
  split <;> simp_all

theorem triggerAction_of_nil {db : Database} (h : db.triggers = []) (table : String)
    (timing : TriggerTiming) (event : TriggerEvent) (changed : List String) :
    db.triggerAction table timing event changed = none := by
  simp [triggerAction, h]

/-- An insert in abort mode on a database without triggers that succeeds writes the new row
at the end of its table: no column check failed and no unique key clashed. -/
theorem insert_abort_eq_ok {db : Database} {table : String} {values : List (String × SqlValue)}
    {fk : Bool} {db' : Database} {w : Bool} (htr : db.triggers = [])
    (h : db.insert table values .abort fk = .ok (db', w)) :
    ∃ t rowid row, db.table? table = some t ∧ t.newRow values = .ok (rowid, row) ∧
      checkColumns t row = none ∧ clashes t row t.rows = [] ∧ w = true ∧
      db' = db.putTable (t.withRow rowid row) := by
  unfold insert at h
  simp only [bind, Except.bind, triggerAction_of_nil htr] at h
  split at h
  · contradiction
  rename_i t hT
  split at h
  · contradiction
  rename_i rowid row hrow
  obtain ⟨rowid, row⟩ := row
  rw [requireTable_eq_ok] at hT
  cases hc : checkColumns t row with
  | some m => simp [hc, throw, throwThe, MonadExceptOf.throw] at h
  | none =>
    cases hk : clashes t row t.rows with
    | cons k ks => simp [hc, hk, throw, throwThe, MonadExceptOf.throw] at h
    | nil =>
      refine ⟨t, rowid, row, hT, hrow, hc, hk, ?_⟩
      cases fk
      · simp [hc, hk, pure, Except.pure] at h
        exact ⟨h.2, h.1.symm⟩
      · cases hr : db.checkReferences t row (t.schema.columns.map (·.name)) with
        | error e => simp [hc, hk, hr, pure, Except.pure] at h
        | ok u =>
          simp [hc, hk, hr, pure, Except.pure] at h
          exact ⟨h.2, h.1.symm⟩

/-- An insert in any mode that succeeds leaves the database as it was or puts back its table
with other rows. -/
theorem insert_eq_ok_frame {db : Database} {table : String} {values : List (String × SqlValue)}
    {mode : ConflictMode} {fk : Bool} {db' : Database} {w : Bool}
    (h : db.insert table values mode fk = .ok (db', w)) :
    db' = db ∨ ∃ t rows n, db.table? table = some t ∧
      db' = db.putTable { t with rows := rows, nextRowid := n } := by
  unfold insert at h
  simp only [bind, Except.bind] at h
  split at h
  · contradiction
  rename_i t hT
  rw [requireTable_eq_ok] at hT
  split at h
  · contradiction
  repeat' split at h
  all_goals simp only [pure, Except.pure, throw, throwThe, MonadExceptOf.throw, Except.ok.injEq,
    Prod.mk.injEq, reduceCtorEq] at *
  all_goals first
    | exact .inl h.1.symm
    | exact .inr ⟨t, _, _, hT, h.1.symm⟩

theorem sameName_of_table? {db : Database} {n : String} {t : Table} (h : db.table? n = some t) :
    sameName t.schema.name n = true := by
  unfold table? at h
  simpa using List.find?_some h

theorem insert_table?_of_ne {db : Database} {table : String} {values : List (String × SqlValue)}
    {mode : ConflictMode} {fk : Bool} {db' : Database} {w : Bool}
    (h : db.insert table values mode fk = .ok (db', w)) {n : String}
    (hn : sameName table n = false) : db'.table? n = db.table? n := by
  rcases insert_eq_ok_frame h with rfl | ⟨t, rows, k, hT, rfl⟩
  · rfl
  · have htn : sameName t.schema.name n = false := by
      cases h' : sameName t.schema.name n
      · rfl
      · exact absurd (sameName_trans (sameName_symm (sameName_of_table? hT)) h') (by simp [hn])
    rw [table?_putTable]
    simp [htn]

theorem insert_triggers {db : Database} {table : String} {values : List (String × SqlValue)}
    {mode : ConflictMode} {fk : Bool} {db' : Database} {w : Bool}
    (h : db.insert table values mode fk = .ok (db', w)) : db'.triggers = db.triggers := by
  rcases insert_eq_ok_frame h with rfl | ⟨t, rows, k, hT, rfl⟩ <;> rfl

theorem update_eq_ok {db : Database} {table : String} {changed : List String}
    {assign : Row → Except String (List (String × SqlValue))} {pred : Row → Except String Bool}
    {fk : Bool} {db' : Database} {count : Nat}
    (h : db.update table changed assign pred fk = .ok (db', count)) :
    ∃ t rows, db.table? table = some t ∧
      (∃ c, t.rows.foldlM (db.updateRow t changed assign pred) ([], 0) = .ok (rows, c)) ∧
      db' = db.putTable { t with rows := rows } := by
  unfold update at h
  simp only [bind, Except.bind] at h
  split at h
  · contradiction
  rename_i t hT
  rw [requireTable_eq_ok] at hT
  refine ⟨t, ?_⟩
  cases hfold : t.rows.foldlM (db.updateRow t changed assign pred) ([], 0) with
  | error e =>
    repeat' split at h
    all_goals simp_all [throw, throwThe, MonadExceptOf.throw]
  | ok v =>
    obtain ⟨rows, c⟩ := v
    refine ⟨rows, hT, ⟨c, rfl⟩, ?_⟩
    simp only [hfold] at h
    repeat' split at h
    all_goals simp only [pure, Except.pure, throw, throwThe, MonadExceptOf.throw,
      Except.ok.injEq, Prod.mk.injEq, reduceCtorEq] at *
    all_goals exact h.1.symm

section UpdateRows

variable {db : Database} {t : Table} {changed : List String} {vals : List (String × SqlValue)}
  {p : Row → Bool}

theorem updateRow_eq_ok (htr : db.triggers = []) {done : List (Nat × Row)} {c : Nat}
    {e : Nat × Row} {acc : List (Nat × Row) × Nat}
    (h : db.updateRow t changed (fun _ => .ok vals) (fun r => .ok (p r)) (done, c) e = .ok acc) :
    acc.1 = done ++ [t.updated vals p e] := by
  obtain ⟨k, old⟩ := e
  unfold updateRow at h
  simp only [bind, Except.bind, pure, Except.pure, triggerAction_of_nil htr] at h
  unfold Table.updated
  cases hp : p old
  · simp [hp] at h
    simp [← h]
  · cases hc : checkColumns t (t.schema.assignedRow vals old) with
    | some m => simp [hp, hc, throw, throwThe, MonadExceptOf.throw] at h
    | none =>
      simp [hp, hc] at h
      simp [← h]

/-- The rows an update whose condition and values cannot fail leaves: each row it picks is
replaced by its assigned row, in place. -/
theorem foldlM_updateRow_eq_ok (htr : db.triggers = []) (l : List (Nat × Row))
    (done : List (Nat × Row)) (c : Nat) {acc : List (Nat × Row) × Nat}
    (h : l.foldlM (db.updateRow t changed (fun _ => .ok vals) (fun r => .ok (p r))) (done, c) =
      .ok acc) :
    acc.1 = done ++ l.map (t.updated vals p) := by
  induction l generalizing done c with
  | nil =>
    simp only [List.foldlM_nil, pure, Except.pure, Except.ok.injEq] at h
    simp [← h]
  | cons e l ih =>
    rw [List.foldlM_cons] at h
    cases hstep : db.updateRow t changed (fun _ => .ok vals) (fun r => .ok (p r)) (done, c) e with
    | error m => simp [hstep, bind, Except.bind] at h
    | ok acc' =>
      obtain ⟨done', c'⟩ := acc'
      simp only [hstep, bind, Except.bind] at h
      have hdone : done' = done ++ [t.updated vals p e] := updateRow_eq_ok htr hstep
      rw [ih done' c' h, hdone]
      simp

/-- An update whose condition and values cannot fail, on a database without triggers, puts
back its table with each picked row replaced by its assigned row. -/
theorem update_eq_ok_rows (htr : db.triggers = []) {table : String} {fk : Bool} {db' : Database}
    {count : Nat}
    (h : db.update table changed (fun _ => .ok vals) (fun r => .ok (p r)) fk = .ok (db', count)) :
    ∃ t, db.table? table = some t ∧ db' = db.putTable { t with rows := t.rows.map (t.updated vals p) } := by
  obtain ⟨t, rows, hT, ⟨c, hfold⟩, rfl⟩ := update_eq_ok h
  have hrows := foldlM_updateRow_eq_ok htr t.rows [] 0 hfold
  simp only [List.nil_append] at hrows
  exact ⟨t, hT, by rw [hrows]⟩

end UpdateRows

end Database

namespace Rows

theorem lift_eq_ok {α : Type} {x : Except String α} {a : α} : lift x = .ok a ↔ x = .ok a := by
  cases x <;> simp [lift]

/-- A selection reads its table's rows by row number, keeps those `pred` picks, orders them
by `before` and reads the named columns. -/
theorem selectOrdered_eq_ok {db : Database} {table : String} {cols : List String}
    {pred : Table → Row → Bool} {before : Table → Row → Row → Bool} {sel : List Codec.Selected} :
    selectOrdered db table cols pred before = .ok sel ↔ ∃ t, db.table? table = some t ∧
      sel = ((((t.rows.mergeSort fun a b => a.1 ≤ b.1).map (·.2)).filter (pred t)).mergeSort
        (before t)).map (project t cols) := by
  unfold selectOrdered
  cases hT : db.requireTable table with
  | error m =>
    simp only [lift, bind, Except.bind, reduceCtorEq, false_iff, not_exists, not_and]
    intro t ht
    rw [← Database.requireTable_eq_ok, hT] at ht
    cases ht
  | ok t =>
    rw [Database.requireTable_eq_ok] at hT
    simp [lift, bind, Except.bind, pure, Except.pure, hT, eq_comm]

theorem mergeSort_rowid {rows : List (Nat × Row)} (h : rows.Pairwise fun a b => a.1 < b.1) :
    (rows.mergeSort fun a b => a.1 ≤ b.1) = rows :=
  List.mergeSort_of_pairwise (h.imp fun hab => by simpa using Nat.le_of_lt hab)

theorem mergeSort_noOrder (t : Table) (rows : List Row) : rows.mergeSort (noOrder t) = rows :=
  List.mergeSort_of_pairwise (List.pairwise_of_forall fun _ _ => rfl)

theorem decodeAll_map {α β : Type} {decode : Codec.Selected → Except String α} {l : List β}
    {g : β → Codec.Selected} {f : β → α} (h : ∀ b ∈ l, decode (g b) = .ok (f b)) :
    decodeAll decode (l.map g) = .ok (l.map f) := by
  unfold decodeAll
  rw [lift_eq_ok]
  induction l with
  | nil => rfl
  | cons b l ih =>
    simp only [List.map_cons, List.mapM_cons, h b (by simp),
      ih fun x hx => h x (List.mem_cons_of_mem b hx)]
    rfl

end Rows

end ForexJournal
