import Mathlib
import ForexJournal.Proofs.UniqueKeys
import ForexJournal.Proofs.IndicatorHistory
import ForexJournal.Proofs.AverageRange
import ForexJournal.Proofs.TrendMirror
import ForexJournal.Service.Evaluation

/-!
# What the batch operations count

Each batch operation walks a list of candles and adds every candle to exactly one of its
counts, whatever happens to the candle's writes: an import counts it as inserted or as a
duplicate (`importFrom_counts`), a back-fill as saved or failed (`saveAll_counts`), and an
evaluation as evaluated or failed (`evaluateEach_counts`).

A back-fill runs the slow average over the series, which reports a value from its period's
candle on; so the number of candles with that average is the number of candles less 199. A
batch evaluation counts, per rule code, the candles on which the rule passed. Each candle has
one result per rule, and the two trend rules never pass together, so no code passes more often
than the candles evaluated, and neither do the two trend rules together.
-/
namespace ForexJournal

/-! ## Reading and writing candles -/

theorem Rows.length_of_mapM_eq_ok {α β ε : Type} {f : α → Except ε β} {l : List α}
    {L : List β} (h : l.mapM f = .ok L) : L.length = l.length := by
  induction l generalizing L with
  | nil =>
    simp only [List.mapM_nil, pure, Except.pure, Except.ok.injEq] at h
    subst h
    rfl
  | cons a l ih =>
    obtain ⟨b, bs, -, hbs, rfl⟩ := Rows.mapM_cons_eq_ok.1 h
    simp [ih hbs]

/-- The stored candles of a series, as the listing picks them. -/
def Table.seriesRows (t : Table) (symbol : String) (tf : Timeframe) : List Row :=
  t.values.filter fun row =>
    Rows.whereText "symbol" symbol t row && Rows.whereText "timeframe" tf.name t row

theorem Store.listCandles_length {s : Store} {symbol : String} {tf : Timeframe}
    {cs : List Candle} (h : s.listCandles symbol tf = .ok cs) :
    ∃ t, s.db.table? "candles" = some t ∧ cs.length = (t.seriesRows symbol tf).length := by
  simp only [Store.listCandles, except_bind_eq_ok] at h
  obtain ⟨sel, hsel, hdec⟩ := h
  obtain ⟨t, hT, -⟩ := Rows.selectOrdered_eq_ok.1 hsel
  obtain ⟨sel', hsel', hperm⟩ := Rows.selectOrdered_perm hT candleColumns _
    (Rows.byColumns ["timestamp"])
  obtain rfl : sel' = sel := Except.ok.inj (hsel'.symm.trans hsel)
  refine ⟨t, hT, ?_⟩
  unfold Rows.decodeAll at hdec
  rw [Rows.length_of_mapM_eq_ok (Rows.lift_eq_ok.1 hdec), hperm.length_eq, List.length_map]
  rfl

section Writes

variable {s s' : Store}

theorem Store.write_unlocked {α : Type} {f : Database → Except String (Database × α)}
    {x : α × Store} (h : s.write f = .ok x) : s.writeLocked = false := by
  cases hl : s.writeLocked
  · rfl
  · simp [Store.write, hl] at h

theorem Store.insertCandle_grows {c : Candle} {w : Bool} (h : s.insertCandle c = .ok (w, s')) :
    Database.Grows "candles" s.db s'.db ∧ s'.writeLocked = s.writeLocked := by
  obtain ⟨db', hins, rfl⟩ := Store.write_eq_ok h
  exact ⟨Database.Grows.of_insert hins (by decide), rfl⟩

theorem Store.saveIndicators_grows {i : Indicators} (h : s.saveIndicators i = .ok s') :
    Database.Grows "candles" s.db s'.db ∧ s'.writeLocked = s.writeLocked := by
  obtain ⟨⟨a, s''⟩, hw, rfl⟩ := JournalRows.except_map_eq_ok h
  obtain ⟨db', hins, rfl⟩ := Store.write_eq_ok hw
  exact ⟨Database.Grows.of_insert_other hins (by rw [sameName_eq]; decide), rfl⟩

/-- A candle offered to a store with the journal's candles table is skipped when offered again:
it was skipped already, or it is stored now, under its identifier. -/
theorem Store.insertCandle_skips_again
    (hS : ∀ t, s.db.table? "candles" = some t → t.schema = candlesTable) {c : Candle} {w : Bool}
    (h : s.insertCandle c = .ok (w, s')) :
    ∃ t, s'.db.table? "candles" = some t ∧ s'.db.Skips t c.cells .ignore := by
  obtain ⟨db', hins, rfl⟩ := Store.write_eq_ok h
  obtain ⟨t, rowid, row, hT, hrow, ⟨-, rfl, hs⟩ | ⟨-, ha, kept, hkept, rfl⟩⟩ :=
    Database.insert_eq_ok_cases hins
  · rw [Candle.newRow_toRow (hS t hT)] at hrow
    cases hrow
    exact ⟨t, hT, hs⟩
  · rw [Candle.newRow_toRow (hS t hT)] at hrow
    cases hrow
    rw [hkept (by decide)]
    refine ⟨_, Database.table?_putTable_self hT _ rfl, Database.skips_of_mem ha.before
      ["id"] (by simp [hS t hT, candlesTable]) (List.mem_append_right _
        (List.mem_singleton_self _)) fun k hk => ?_⟩
    rw [List.mem_singleton.1 hk]
    have hid : t.get c.cells "id" = .text c.id.toText := Candle.get_id (hS t hT) c
    show SqlValue.sqlEq (t.get c.cells "id") (t.get c.cells "id") = true
    rw [hid, SqlValue.sqlEq_text, decide_eq_true_eq]

end Writes

/-! ## The indicator pass -/

/-- One step of the pass runs the slow average on the candle's close, and the candle's slow
average is present exactly when the average has a value. -/
theorem IndicatorPass.step_slow {p p' : IndicatorPass} {c : Candle} {i : Indicators}
    (h : p.step c = .ok (i, p')) :
    p.slow.step c.close = .ok p'.slow ∧ i.ema200.isSome = p'.slow.value.isSome := by
  simp only [IndicatorPass.step, bind, Except.bind] at h
  split at h
  · cases h
  split at h
  · cases h
  split at h
  · cases h
  rename_i slow hslow
  split at h
  · cases h
  simp only [pure, Except.pure, Except.ok.injEq, Prod.mk.injEq] at h
  obtain ⟨rfl, rfl⟩ := h
  exact ⟨hslow, by simp⟩

theorem IndicatorPass.start_slow :
    IndicatorPass.start.slow.seen = 0 ∧ IndicatorPass.start.slow.period = 200 ∧
      IndicatorPass.start.slow.value = none :=
  ⟨rfl, rfl, rfl⟩

namespace Evaluation

/-! ## Import -/

/-- An import that finishes counted every candle as inserted or as a duplicate. -/
theorem importFrom_counts {s s' : Store} {acc r : ImportSummary} {cs : List Candle}
    (h : importFrom s acc cs = (.ok r, s')) :
    r.inserted + r.duplicates = acc.inserted + acc.duplicates + cs.length := by
  induction cs generalizing s acc with
  | nil =>
    simp only [importFrom, Prod.mk.injEq, Except.ok.injEq] at h
    rw [← h.1]
    rfl
  | cons c cs ih =>
    unfold importFrom at h
    split at h
    · cases h
    split at h
    · cases h
    · have := ih h
      simp only [List.length_cons] at this ⊢
      omega
    · split at h
      · cases h
      split at h
      · cases h
      · have := ih h
        simp only [List.length_cons] at this ⊢
        omega

/-! ## Back-fill -/

/-- Over a back-fill's pass every candle is saved or counted as failed, and the candles with a
slow average are those from the average's period on: from a pass whose slow average has seen
`k` closes, `n` more candles add the counts from `k + 1` to `k + n` that reach the period. -/
theorem saveAll_counts {s s' : Store} {acc r : BackfillSummary} {p : IndicatorPass}
    {cs : List Candle} (h : saveAll s acc p cs = (.ok r, s'))
    (hp : p.slow.value = none ↔ p.slow.seen < p.slow.period) :
    r.candles = acc.candles ∧ r.saved + r.failed = acc.saved + acc.failed + cs.length ∧
      r.withEma200 + (p.slow.seen + 1 - p.slow.period) =
        acc.withEma200 + (p.slow.seen + cs.length + 1 - p.slow.period) := by
  induction cs generalizing s acc p with
  | nil =>
    simp only [saveAll, Prod.mk.injEq, Except.ok.injEq] at h
    rw [← h.1]
    simp
  | cons c cs ih =>
    unfold saveAll at h
    split at h
    · cases h
    rename_i i p' hstep
    obtain ⟨hslow, hsome⟩ := IndicatorPass.step_slow hstep
    obtain ⟨hper, hseen, hval⟩ := Ema.step_counts hslow
    have hp' : p'.slow.value = none ↔ p'.slow.seen < p'.slow.period := by
      rw [hval, hper, hseen, hp]
      omega
    have hcount : i.ema200.isSome = true ↔ p.slow.period ≤ p.slow.seen + 1 := by
      rw [hsome, Option.isSome_iff_ne_none, Ne, hp', hper, hseen]
      omega
    cases hi : i.ema200.isSome <;>
      simp only [hi, Bool.false_eq_true, if_true, if_false, false_iff, true_iff] at h hcount <;>
      split at h <;>
      · obtain ⟨h₁, h₂, h₃⟩ := ih h hp'
        rw [hper, hseen] at h₃
        simp only [List.length_cons] at h₁ h₂ h₃ ⊢
        omega

/-- A back-fill that finishes counted each stored candle of the series once, as saved or as
failed, and found the slow average on all of them but the first 199. -/
theorem backfillIndicators_counts {s s' : Store} {symbol : String} {tf : Timeframe}
    {r : BackfillSummary} (h : backfillIndicators s symbol tf = (.ok r, s')) :
    ∃ t, s.db.table? "candles" = some t ∧ r.candles = (t.seriesRows symbol tf).length ∧
      r.saved + r.failed = r.candles ∧ r.withEma200 = r.candles - 199 := by
  unfold backfillIndicators at h
  split at h
  · cases h
  rename_i cs hcs
  obtain ⟨t, hT, hlen⟩ := Store.listCandles_length hcs
  obtain ⟨hseen, hper, hval⟩ := IndicatorPass.start_slow
  cases hsa : saveAll s ⟨cs.length, 0, 0, 0⟩ IndicatorPass.start cs with
  | mk res st =>
    simp only [hsa] at h
    cases res with
    | error f => cases h
    | ok r' =>
      obtain ⟨rfl, rfl⟩ : r' = r ∧ st = s' := by simpa [Except.mapError] using h
      obtain ⟨h₁, h₂, h₃⟩ := saveAll_counts hsa (by rw [hval, hseen, hper]; decide)
      rw [hseen, hper] at h₃
      refine ⟨t, hT, by rw [h₁, ← hlen], ?_, ?_⟩ <;> simp only at h₁ h₂ h₃ <;> omega

/-- A pass over the candles that finishes makes the back-fill's loop finish, whatever its saves
do. -/
theorem saveAll_isOk {p : IndicatorPass} {cs : List Candle} {out : List Indicators}
    (h : p.run cs = .ok out) (s : Store) (acc : BackfillSummary) :
    ∃ r s', saveAll s acc p cs = (.ok r, s') := by
  induction cs generalizing p s acc out with
  | nil => exact ⟨acc, s, rfl⟩
  | cons c cs ih =>
    simp only [IndicatorPass.run, bind, Except.bind] at h
    split at h
    · cases h
    rename_i i p' hstep
    split at h
    · cases h
    rename_i out' hrun
    unfold saveAll
    simp only [hstep]
    split
    · exact ih hrun _ _
    · exact ih hrun _ _

theorem backfillIndicators_isOk {s : Store} {symbol : String} {tf : Timeframe}
    {cs : List Candle} (hcs : s.listCandles symbol tf = .ok cs)
    (hv : ∀ c ∈ cs, c.validate = .ok ()) :
    ∃ r s', backfillIndicators s symbol tf = (.ok r, s') := by
  obtain ⟨-, -, -, out, -, -, -, hout, -⟩ := computeIndicators_eq cs hv
  obtain ⟨r, s', hsa⟩ := saveAll_isOk hout s ⟨cs.length, 0, 0, 0⟩
  exact ⟨r, s', by simp [backfillIndicators, hcs, hsa, Except.mapError]⟩

/-! ## Evaluation -/

/-- The passes counted for a code: the sum of its entries. -/
def passCount (code : String) (ps : List (String × Nat)) : Nat :=
  ((ps.filter (·.1 == code)).map (·.2)).sum

@[simp] theorem passCount_nil (k : String) : passCount k [] = 0 := rfl

theorem passCount_cons (k k' : String) (n : Nat) (ps : List (String × Nat)) :
    passCount k ((k', n) :: ps) = (if k = k' then n else 0) + passCount k ps := by
  by_cases h : k = k'
  · subst h
    simp [passCount]
  · simp [passCount, h, Ne.symm h]

theorem passCount_countPass_self (code : String) (ps : List (String × Nat)) :
    passCount code (countPass code ps) = passCount code ps + 1 := by
  induction ps with
  | nil => simp [countPass, passCount_cons]
  | cons e rest ih =>
    obtain ⟨k', n⟩ := e
    by_cases h₁ : code = k'
    · subst h₁
      simp only [countPass, if_true, passCount_cons]
      omega
    · by_cases h₂ : (compare code k' == .lt) = true
      · simp only [countPass, h₁, h₂, if_true, if_false, passCount_cons]
        omega
      · simp only [countPass, h₁, h₂, if_false, Bool.false_eq_true, passCount_cons, ih]
        omega

theorem passCount_countPass_of_ne {k code : String} (hk : k ≠ code) (ps : List (String × Nat)) :
    passCount k (countPass code ps) = passCount k ps := by
  induction ps with
  | nil => simp [countPass, passCount_cons, hk]
  | cons e rest ih =>
    obtain ⟨k', n⟩ := e
    by_cases h₁ : code = k'
    · subst h₁
      simp [countPass, passCount_cons, hk]
    · by_cases h₂ : (compare code k' == .lt) = true
      · simp [countPass, h₁, h₂, passCount_cons, hk]
      · simp [countPass, h₁, h₂, passCount_cons, ih]

theorem passCount_countPass (k code : String) (ps : List (String × Nat)) :
    passCount k (countPass code ps) = passCount k ps + if k = code then 1 else 0 := by
  by_cases hk : k = code
  · subst hk
    simp [passCount_countPass_self]
  · simp [passCount_countPass_of_ne hk, hk]

theorem lookup_le_passCount (k : String) (ps : List (String × Nat)) :
    (ps.lookup k).getD 0 ≤ passCount k ps := by
  induction ps with
  | nil => simp
  | cons e rest ih =>
    obtain ⟨k', n⟩ := e
    by_cases hk : k = k'
    · simp [List.lookup, hk, passCount_cons]
    · simp only [List.lookup, beq_false_of_ne hk, passCount_cons, if_neg hk]
      omega

theorem passCount_tally (k : String) (results : RuleResults) (ps : List (String × Nat)) :
    passCount k (results.foldl (fun ps e =>
      if e.2.outcome == .pass then countPass e.1 ps else ps) ps) =
      passCount k ps + (results.filter fun e => e.1 = k ∧ e.2.outcome = .pass).length := by
  induction results generalizing ps with
  | nil => simp
  | cons e rest ih =>
    obtain ⟨code, r⟩ := e
    rw [List.foldl_cons, ih]
    by_cases hp : r.outcome = .pass
    · by_cases hk : code = k
      · subst hk
        simp [hp, passCount_countPass]
        omega
      · simp [hp, hk, Ne.symm hk, passCount_countPass]
    · simp [hp]

/-- What the program needs to evaluate a stored candle, and what it then does: it reads the
candle, its indicators and the previous candle's indicators, evaluates every rule on them and
stores what it can of the results. -/
theorem evaluateCandle_eq_ok {s s' : Store} {id : Uuid} {now : Instant} {results : RuleResults}
    (h : evaluateCandle s id now = .ok (results, s')) :
    ∃ candle ind previous, s.getCandle id = .ok candle ∧ s.getIndicators id = .ok (some ind) ∧
      s.getPreviousIndicators candle = .ok previous ∧
      results = evaluateAllRules ⟨candle.close, ind.ema50, ind.ema200, previous.bind (·.ema50)⟩ ∧
      s' = storeResults s id now results := by
  simp only [evaluateCandle, except_bind_eq_ok] at h
  obtain ⟨candle, hc, o, hind, h⟩ := h
  cases o with
  | none => cases h
  | some ind =>
    obtain ⟨previous, hp, h⟩ := except_bind_eq_ok.1 h
    simp only [pure, Except.pure, Except.ok.injEq, Prod.mk.injEq] at h
    obtain ⟨rfl, rfl⟩ := h
    exact ⟨candle, ind, previous, hc, hind, hp, rfl, rfl⟩

/-- The passes of a candle's results under a code: the bearish result's under its code, and
the bullish result's under its own. -/
theorem evaluateAllRules_passes (x : EvaluationInput) (k : String) :
    ((evaluateAllRules x).filter fun e => e.1 = k ∧ e.2.outcome = .pass).length =
      (if "W1_TREND_BEARISH" = k ∧ (evaluateRule trendBearish x).outcome = .pass then 1 else 0) +
        (if "W1_TREND_BULLISH" = k ∧ (evaluateRule trendBullish x).outcome = .pass then 1
          else 0) := by
  rw [evaluateAllRules_eq]
  simp only [List.filter_cons, List.filter_nil, decide_eq_true_eq]
  split_ifs <;> rfl

/-- One candle's results add at most one pass to each code, and at most one to the two trend
rules together. -/
theorem passCount_evaluateAllRules (k : String) (x : EvaluationInput) (ps : List (String × Nat)) :
    passCount k ((evaluateAllRules x).foldl (fun ps e =>
        if e.2.outcome == .pass then countPass e.1 ps else ps) ps) ≤ passCount k ps + 1 ∧
      passCount "W1_TREND_BULLISH" ((evaluateAllRules x).foldl (fun ps e =>
          if e.2.outcome == .pass then countPass e.1 ps else ps) ps) +
        passCount "W1_TREND_BEARISH" ((evaluateAllRules x).foldl (fun ps e =>
          if e.2.outcome == .pass then countPass e.1 ps else ps) ps) ≤
        passCount "W1_TREND_BULLISH" ps + passCount "W1_TREND_BEARISH" ps + 1 := by
  have hex := trend_rules_exclusive x
  have hcodes : "W1_TREND_BEARISH" ≠ "W1_TREND_BULLISH" := by decide
  simp only [passCount_tally, evaluateAllRules_passes]
  constructor
  · split_ifs with h₁ h₂ h₂
    · exact absurd (h₁.1.trans h₂.1.symm) hcodes
    all_goals omega
  · split_ifs <;> simp_all <;> omega

/-- A batch evaluation counts each candle once, as evaluated or failed, and keeps each code's
passes, and the two trend rules' passes together, within the candles evaluated. -/
theorem evaluateEach_counts {s s' : Store} {now : Instant} {acc r : BatchSummary}
    {cs : List Candle} (h : evaluateEach s now acc cs = (r, s'))
    (hk : ∀ k, passCount k acc.passes ≤ acc.evaluated)
    (ht : passCount "W1_TREND_BULLISH" acc.passes + passCount "W1_TREND_BEARISH" acc.passes ≤
      acc.evaluated) :
    r.candles = acc.candles ∧ r.evaluated + r.failed = acc.evaluated + acc.failed + cs.length ∧
      (∀ k, passCount k r.passes ≤ r.evaluated) ∧
      passCount "W1_TREND_BULLISH" r.passes + passCount "W1_TREND_BEARISH" r.passes ≤
        r.evaluated := by
  induction cs generalizing s acc with
  | nil =>
    simp only [evaluateEach, Prod.mk.injEq] at h
    obtain ⟨rfl, -⟩ := h
    exact ⟨rfl, rfl, hk, ht⟩
  | cons c cs ih =>
    unfold evaluateEach at h
    split at h
    · rename_i results s'' hev
      obtain ⟨candle, ind, previous, -, -, -, rfl, -⟩ := evaluateCandle_eq_ok hev
      have hone := (passCount_evaluateAllRules ·
        ⟨candle.close, ind.ema50, ind.ema200, previous.bind (·.ema50)⟩ acc.passes)
      dsimp only at h
      obtain ⟨h₁, h₂, h₃, h₄⟩ := ih h (fun k => by
        have := (hone k).1
        have := hk k
        dsimp only at this ⊢
        omega) (by
        have := (hone "").2
        dsimp only at this ⊢
        omega)
      refine ⟨h₁, ?_, h₃, h₄⟩
      simp only [List.length_cons] at h₂ ⊢
      omega
    · obtain ⟨h₁, h₂, h₃, h₄⟩ := ih h hk ht
      refine ⟨h₁, ?_, h₃, h₄⟩
      simp only [List.length_cons] at h₂ ⊢
      omega

/-- A batch evaluation counts each stored candle of the series once, as evaluated or failed; no
code passes on more candles than were evaluated, and neither do the two trend rules together. -/
theorem evaluateAllCandles_counts {s s' : Store} {symbol : String} {tf : Timeframe}
    {now : Instant} {r : BatchSummary} (h : evaluateAllCandles s symbol tf now = .ok (r, s')) :
    ∃ t, s.db.table? "candles" = some t ∧ r.candles = (t.seriesRows symbol tf).length ∧
      r.evaluated + r.failed = r.candles ∧
      (∀ code, (r.passes.lookup code).getD 0 ≤ r.evaluated) ∧
      (r.passes.lookup "W1_TREND_BULLISH").getD 0 + (r.passes.lookup "W1_TREND_BEARISH").getD 0 ≤
        r.evaluated := by
  simp only [evaluateAllCandles, except_bind_eq_ok, pure, Except.pure, Except.ok.injEq] at h
  obtain ⟨cs, hcs, h⟩ := h
  obtain ⟨t, hT, hlen⟩ := Store.listCandles_length hcs
  obtain ⟨h₁, h₂, h₃, h₄⟩ := evaluateEach_counts h (fun k => by simp) (by simp)
  refine ⟨t, hT, by rw [h₁, ← hlen], by rw [h₂, h₁]; simp, fun code => ?_, ?_⟩
  · exact (lookup_le_passCount code r.passes).trans (h₃ code)
  · have := lookup_le_passCount "W1_TREND_BULLISH" r.passes
    have := lookup_le_passCount "W1_TREND_BEARISH" r.passes
    omega

/-! ## Importing twice -/

section Reimport

variable {s s' : Store}

theorem importFrom_grows {acc r : ImportSummary} {cs : List Candle}
    (h : importFrom s acc cs = (.ok r, s')) :
    Database.Grows "candles" s.db s'.db ∧ s'.writeLocked = s.writeLocked := by
  induction cs generalizing s acc with
  | nil =>
    simp only [importFrom, Prod.mk.injEq] at h
    rw [← h.2]
    exact ⟨.refl _ _, rfl⟩
  | cons c cs ih =>
    unfold importFrom at h
    split at h
    · cases h
    split at h
    · cases h
    · rename_i s₁ hins
      obtain ⟨g₁, l₁⟩ := Store.insertCandle_grows hins
      obtain ⟨g₂, l₂⟩ := ih h
      exact ⟨g₁.trans g₂, l₂.trans l₁⟩
    · rename_i s₁ hins
      split at h
      · cases h
      split at h
      · cases h
      rename_i s₂ hsave
      obtain ⟨g₁, l₁⟩ := Store.insertCandle_grows hins
      obtain ⟨g₂, l₂⟩ := Store.saveIndicators_grows hsave
      obtain ⟨g₃, l₃⟩ := ih h
      exact ⟨(g₁.trans g₂).trans g₃, l₃.trans (l₂.trans l₁)⟩

/-- After an import, each candle it was given was consistent and is skipped by the store it
leaves, which takes writes. -/
theorem importFrom_skips (hS : ∀ t, s.db.table? "candles" = some t → t.schema = candlesTable)
    {acc r : ImportSummary} {cs : List Candle} (h : importFrom s acc cs = (.ok r, s')) :
    ∀ c ∈ cs, c.validate = .ok () ∧ s'.writeLocked = false ∧
      ∃ t, s'.db.table? "candles" = some t ∧ s'.db.Skips t c.cells .ignore := by
  induction cs generalizing s acc with
  | nil => simp
  | cons c cs ih =>
    have hl := importFrom_grows h
    unfold importFrom at h
    split at h
    · cases h
    rename_i hv
    split at h
    · cases h
    all_goals rename_i s₁ hins
    all_goals
      obtain ⟨g₁, -⟩ := Store.insertCandle_grows hins
      have hS₁ := g₁.schema_eq hS
      obtain ⟨t₁, hT₁, hs₁⟩ := Store.insertCandle_skips_again hS hins
      have hunlocked : s'.writeLocked = false := hl.2.trans (Store.write_unlocked hins)
    · have ih₁ := ih hS₁ h
      obtain ⟨g₂, -⟩ := importFrom_grows h
      obtain ⟨t', hT'⟩ := g₂.exists_table hT₁
      refine List.forall_mem_cons.2 ⟨⟨hv, hunlocked, t', hT', ?_⟩, ih₁⟩
      exact hs₁.grow g₂ hT₁ hT' rfl fun _ _ => rfl
    · split at h
      · cases h
      split at h
      · cases h
      rename_i s₂ hsave
      obtain ⟨g₂, -⟩ := Store.saveIndicators_grows hsave
      have ih₂ := ih (g₂.schema_eq hS₁) h
      obtain ⟨g₃, -⟩ := importFrom_grows h
      obtain ⟨t', hT'⟩ := (g₂.trans g₃).exists_table hT₁
      refine List.forall_mem_cons.2 ⟨⟨hv, hunlocked, t', hT', ?_⟩, ih₂⟩
      exact hs₁.grow (g₂.trans g₃) hT₁ hT' rfl fun _ _ => rfl

theorem importFrom_of_skips (hS : ∀ t, s.db.table? "candles" = some t → t.schema = candlesTable)
    {cs : List Candle} (hc : ∀ c ∈ cs, c.validate = .ok () ∧ s.writeLocked = false ∧
      ∃ t, s.db.table? "candles" = some t ∧ s.db.Skips t c.cells .ignore)
    (acc : ImportSummary) :
    importFrom s acc cs = (.ok ⟨acc.inserted, acc.duplicates + cs.length⟩, s) := by
  induction cs generalizing acc with
  | nil => rfl
  | cons c cs ih =>
    obtain ⟨⟨hv, hl, t, hT, hs⟩, hrest⟩ := List.forall_mem_cons.1 hc
    have hins : s.insertCandle c = .ok (false, s) :=
      Store.write_of_eq_ok hl
        (Database.insert_of_skips hT (Candle.newRow_toRow (hS t hT) c) hs)
    simp only [importFrom, hv, hins, ih hrest, List.length_cons]
    congr 3
    omega

/-- Importing the same candles again into the store an import left counts them all as duplicates
and writes nothing. -/
theorem importCandles_again (hS : ∀ t, s.db.table? "candles" = some t → t.schema = candlesTable)
    {cs : List Candle} {r : ImportSummary} (h : importCandles s cs = (.ok r, s')) :
    importCandles s' cs = (.ok ⟨0, cs.length⟩, s') := by
  have hS' := (importFrom_grows h).1.schema_eq hS
  simpa [importCandles] using importFrom_of_skips hS' (importFrom_skips hS h) ⟨0, 0⟩

end Reimport

/-- The batch operations account for each candle once. An import that finishes counts every
candle it was given as inserted or as a duplicate, and importing the same candles again into the
store it left inserts none. A back-fill that finishes counts each stored candle of the series as
saved or failed and finds the slow average on all but the first 199; it finishes whenever those
candles are consistent. A batch evaluation counts each stored candle of the series as evaluated
or failed, and no code, nor the two trend rules together, passes on more candles than were
evaluated. -/
theorem batch_summaries_count_each_candle :
    (∀ (s s' : Store) (cs : List Candle) (r : ImportSummary), importCandles s cs = (.ok r, s') →
      r.inserted + r.duplicates = cs.length ∧
        ((∀ t, s.db.table? "candles" = some t → t.schema = candlesTable) →
          importCandles s' cs = (.ok ⟨0, cs.length⟩, s'))) ∧
    (∀ (s s' : Store) (symbol : String) (tf : Timeframe) (r : BackfillSummary),
      backfillIndicators s symbol tf = (.ok r, s') →
      ∃ t, s.db.table? "candles" = some t ∧ r.candles = (t.seriesRows symbol tf).length ∧
        r.saved + r.failed = r.candles ∧ r.withEma200 = r.candles - 199) ∧
    (∀ (s : Store) (symbol : String) (tf : Timeframe) (cs : List Candle),
      s.listCandles symbol tf = .ok cs → (∀ c ∈ cs, c.validate = .ok ()) →
      ∃ r s', backfillIndicators s symbol tf = (.ok r, s')) ∧
    (∀ (s s' : Store) (symbol : String) (tf : Timeframe) (now : Instant) (r : BatchSummary),
      evaluateAllCandles s symbol tf now = .ok (r, s') →
      ∃ t, s.db.table? "candles" = some t ∧ r.candles = (t.seriesRows symbol tf).length ∧
        r.evaluated + r.failed = r.candles ∧
        (∀ code, (r.passes.lookup code).getD 0 ≤ r.evaluated) ∧
        (r.passes.lookup "W1_TREND_BULLISH").getD 0 + (r.passes.lookup "W1_TREND_BEARISH").getD 0 ≤
          r.evaluated) :=
  ⟨fun _ _ _ _ h => ⟨by simpa using importFrom_counts h, fun hS => importCandles_again hS h⟩,
    fun _ _ _ _ _ h => backfillIndicators_counts h,
    fun _ _ _ _ hcs hv => backfillIndicators_isOk hcs hv,
    fun _ _ _ _ _ _ h => evaluateAllCandles_counts h⟩

/-- A weekly candle imported into a fresh store is inserted, and importing it again counts it as
a duplicate; a back-fill and a batch evaluation of its series then each count the candles of
the series. -/
theorem batch_summaries_count_each_candle_after_import :
    ∃ s, importCandles Store.fresh [sampleCandle] = (.ok ⟨1, 0⟩, s) ∧
      importCandles s [sampleCandle] = (.ok ⟨0, 1⟩, s) ∧
      (∃ r s', backfillIndicators s "EURUSD" .weekly = (.ok r, s') ∧
        ∃ t, s.db.table? "candles" = some t ∧ r.candles = (t.seriesRows "EURUSD" .weekly).length ∧
          r.saved + r.failed = r.candles ∧ r.withEma200 = r.candles - 199) ∧
      ∃ r s', evaluateAllCandles s "EURUSD" .weekly Instant.epoch = .ok (r, s') ∧
        ∃ t, s.db.table? "candles" = some t ∧ r.candles = (t.seriesRows "EURUSD" .weekly).length ∧
          r.evaluated + r.failed = r.candles ∧
          (∀ code, (r.passes.lookup code).getD 0 ≤ r.evaluated) ∧
          (r.passes.lookup "W1_TREND_BULLISH").getD 0 +
            (r.passes.lookup "W1_TREND_BEARISH").getD 0 ≤ r.evaluated := by
  obtain ⟨himport, hbackfill, hfinishes, hevaluate⟩ := batch_summaries_count_each_candle
  have hr : (importCandles Store.fresh [sampleCandle]).1.toOption.map id = some ⟨1, 0⟩ := by
    decide +kernel
  obtain ⟨r, hr, hr₁⟩ := exists_eq_ok_of_toOption hr
  rw [id] at hr₁
  subst hr₁
  set s := (importCandles Store.fresh [sampleCandle]).2
  have hi : importCandles Store.fresh [sampleCandle] = (.ok ⟨1, 0⟩, s) := by rw [← hr]
  have hC : Store.fresh.db.table? "candles" = some (Table.empty candlesTable) :=
    Store.fresh_table? candlesTable (by simp [journalSchema])
  have hS : ∀ t, Store.fresh.db.table? "candles" = some t → t.schema = candlesTable := by
    intro t ht
    rw [hC] at ht
    cases ht
    rfl
  have hlist : (s.listCandles "EURUSD" .weekly).toOption.map
      (fun cs => cs.all fun c => c.validate.toOption.isSome) = some true := by
    decide +kernel
  obtain ⟨cs, hcs, hall⟩ := exists_eq_ok_of_toOption hlist
  have hv : ∀ c ∈ cs, c.validate = .ok () := fun c hc => by
    have hc' := List.all_eq_true.1 hall c hc
    revert hc'
    cases c.validate <;> simp [Except.toOption]
  obtain ⟨b, s₁, hb⟩ := hfinishes s "EURUSD" .weekly cs hcs hv
  have he : evaluateAllCandles s "EURUSD" .weekly Instant.epoch =
      .ok (evaluateEach s Instant.epoch ⟨cs.length, 0, 0, []⟩ cs) := by
    simp [evaluateAllCandles, hcs, bind, Except.bind, pure, Except.pure]
  exact ⟨s, hi, (himport _ _ _ _ hi).2 hS, ⟨b, s₁, hb, hbackfill _ _ _ _ _ hb⟩,
    ⟨_, _, he, hevaluate _ _ _ _ _ _ he⟩⟩

end Evaluation

end ForexJournal
