import Mathlib
import ForexJournal.Proofs.Writes
import ForexJournal.Proofs.History
import ForexJournal.Proofs.Lifecycle
import ForexJournal.Proofs.StoredRows

/-!
# The history a trade keeps

`Trade.HistoryOk T H` collects what holds of a stored trade `T` and its executions `H` in the
order they were stored: the fills are in time order and kept to the microsecond; their kinds
form a course (nothing, an entry followed by partial closes, possibly ended by a closing fill);
a marked trade has no fill; the entry takes the planned size; prices and sizes are positive;
and both the state and the open size can be derived from the history.

It holds of a new trade with a positive planned size (`HistoryOk.nil`), survives setting a
marker on a trade without fills (`HistoryOk.mark`), and survives appending a fill that passed
the checks of recording (`HistoryOk.append`). The checks see the history as the store reads it,
by time text; they only need it to be a reordering of `H` with the same stable sort by time.
-/

namespace ForexJournal

namespace Decimal

theorem plusZero_of_isPositive {d : Decimal} (h : d.isPositive = true) : d.plusZero = d := by
  simp only [isPositive, Bool.and_eq_true, Bool.not_eq_eq_eq_not, Bool.not_true,
    bne_iff_ne, ne_eq] at h
  cases d
  simp_all [plusZero]

end Decimal

namespace Instant

theorem truncMicros_truncMicros (t : Instant) : t.truncMicros.truncMicros = t.truncMicros := by
  simp only [truncMicros, mk.injEq, true_and]
  omega

theorem lt_of_le_of_lt {a b c : Instant} (h₁ : a.le b = true) (h₂ : b.lt c = true) :
    a.lt c = true := by
  rw [le_iff] at h₁; rw [lt_iff] at h₂ ⊢; omega

/-- The running latest of a scan that started from `b` is no earlier than `b` or any instant
scanned. -/
theorem foldl_latest (ts : List Instant) (b : Instant) :
    ∃ l, ts.foldl (fun best t =>
      match best with
      | some b => if b.lt t then some t else some b
      | none => some t) (some b) = some l ∧ b.le l = true ∧ ∀ x ∈ ts, x.le l = true := by
  induction ts generalizing b with
  | nil => exact ⟨b, rfl, le_refl b, by simp⟩
  | cons t ts ih =>
    simp only [List.foldl_cons]
    by_cases hbt : b.lt t = true
    · obtain ⟨l, hl, htl, hall⟩ := ih t
      refine ⟨l, by simpa [hbt] using hl, ?_, ?_⟩
      · rw [lt_iff] at hbt; rw [le_iff] at htl ⊢; omega
      · intro x hx
        rcases List.mem_cons.1 hx with rfl | hx
        · exact htl
        · exact hall x hx
    · obtain ⟨l, hl, hbl, hall⟩ := ih b
      have htb : t.le b = true := by
        rw [lt_iff_not_le] at hbt; simpa using hbt
      refine ⟨l, by simpa [hbt] using hl, hbl, ?_⟩
      intro x hx
      rcases List.mem_cons.1 hx with rfl | hx
      · exact le_trans htb hbl
      · exact hall x hx

theorem le_latest {ts : List Instant} {x : Instant} (hx : x ∈ ts) :
    ∃ l, latest ts = some l ∧ x.le l = true := by
  cases ts with
  | nil => cases hx
  | cons t ts =>
    obtain ⟨l, hl, htl, hall⟩ := foldl_latest ts t
    refine ⟨l, hl, ?_⟩
    rcases List.mem_cons.1 hx with rfl | hx
    · exact htl
    · exact hall x hx

end Instant

namespace Journal

theorem le_of_checkNotEarlier {t : Instant} {history : List Execution}
    (h : checkNotEarlier t history = .ok ()) : ∀ x ∈ history, x.executedAt.le t = true := by
  intro x hx
  obtain ⟨l, hl, hxl⟩ := Instant.le_latest (List.mem_map_of_mem (f := (·.executedAt)) hx)
  unfold checkNotEarlier at h
  rw [hl] at h
  dsimp only at h
  split_ifs at h with hlt
  have hlt : ¬ t.lt l = true := by simpa using hlt
  exact Instant.le_trans hxl (by simpa [Instant.lt_iff_not_le] using hlt)

theorem isPositive_of_requirePositive {field : String} {v : Decimal}
    (h : Risk.requirePositive field v = .ok ()) : v.isPositive = true := by
  unfold Risk.requirePositive Decimal.isNonPositive at h
  split_ifs at h with hv
  simpa using hv

end Journal

namespace TradeState

theorem canTake_of_ensureTransition {s : TradeState} {k : ExecutionKind} {i : Nat}
    (h : ensureTransition s k i = .ok ()) : s.canTake k = true := by
  cases hk : s.canTake k
  · rw [ensureTransition_of_not_canTake hk] at h; cases h
  · rfl

end TradeState

namespace Lifecycle

/-- Replaying one more fill: an entry keeps the open size, any other fill needs an entry before
it and takes its size from what is open. -/
theorem replaySizes_append_single (rem : Decimal) (filled : Bool) (l : List Execution)
    (x : Execution) :
    replaySizes rem filled (l ++ [x]) = replaySizes rem filled l >>= fun r =>
      if x.kind = .entry then .ok r
      else if !(filled || l.any (·.kind = .entry)) then .error (.prematureExecution x.kind)
      else applySize x.kind x.positionSize r := by
  induction l generalizing rem filled with
  | nil =>
    rw [List.nil_append]
    by_cases hx : x.kind = .entry
    · simp [replaySizes, hx, bind, Except.bind]
    · cases filled
      · simp [replaySizes, hx, bind, Except.bind]
      · simp only [replaySizes, hx, if_false, Bool.not_true, Bool.false_eq_true, List.any_nil,
          Bool.true_or, bind, Except.bind]
        split <;> simp_all
  | cons e l ih =>
    by_cases he : e.kind = .entry
    · simp only [List.cons_append, replaySizes, he, if_true, ih, List.any_cons, decide_true,
        Bool.true_or, Bool.or_true]
    · cases filled
      · simp [replaySizes, he, bind, Except.bind]
      · simp only [List.cons_append, replaySizes, he, if_false, Bool.not_true, ih, Bool.true_or,
          Bool.false_eq_true]
        rw [bind_assoc]

/-- What a passed size check says: the history's open size, an entry of the planned size, and
any other fill after an entry and fitting what is open. -/
theorem validateSize_eq_ok {k : ExecutionKind} {size planned : Decimal} {ex : List Execution}
    (h : validateSize k size planned ex = .ok ()) :
    ∃ rem, remainingPosition planned ex = .ok rem ∧
      (k = .entry → size.sameValue planned = true) ∧
      (k ≠ .entry → ex.any (·.kind = .entry) = true ∧ ∃ r, applySize k size rem = .ok r) := by
  simp only [validateSize, except_bind_eq_ok] at h
  obtain ⟨rem, hrem, h⟩ := h
  refine ⟨rem, hrem, fun hk => ?_, fun hk => ?_⟩
  · subst hk
    simp only at h
    split_ifs at h with hs
    simpa using hs
  · cases k with
    | entry => exact absurd rfl hk
    | _ =>
      simp only at h
      split_ifs at h with hany
      obtain ⟨r, hr, -⟩ := except_bind_eq_ok.1 h
      exact ⟨by simpa using hany, r, hr⟩

end Lifecycle

/-- What holds of a stored trade and its executions in the order they were stored. -/
structure Trade.HistoryOk (T : Trade) (H : List Execution) : Prop where
  /-- no fill is earlier than one stored before it -/
  inTimeOrder : Execution.InTimeOrder H
  /-- every time is kept to the microsecond -/
  micros : ∀ e ∈ H, e.executedAt.truncMicros = e.executedAt
  /-- the kinds are nothing, an entry and partial closes, possibly ended by a closing fill -/
  course : ∃ st, Course (H.map (·.kind)) st
  /-- a cancelled or invalidated trade was never filled -/
  unfilledIfMarked : T.terminal.isSome → H = []
  /-- the entry takes the planned size -/
  entrySize : ∀ e ∈ H, e.kind = .entry → e.positionSize.sameValue T.plannedPositionSize = true
  /-- every price and size is positive -/
  positive : ∀ e ∈ H, e.price.isPositive = true ∧ e.positionSize.isPositive = true
  /-- the state can be derived -/
  derives : ∃ st, TradeState.derive T.marker H = .ok st
  /-- the open size can be derived -/
  remaining : ∃ r, Lifecycle.remainingPosition T.plannedPositionSize H = .ok r

namespace Trade.HistoryOk

/-- A trade without fills keeps its history when its planned size is positive. -/
theorem nil {T : Trade} (hpos : T.plannedPositionSize.isPositive = true) : T.HistoryOk [] := by
  refine ⟨List.Pairwise.nil, by simp, ⟨_, .planned⟩, fun _ => rfl, by simp, by simp, ?_, ?_⟩
  · cases T.marker with
    | none =>
      refine ⟨.planned, ?_⟩
      simp only [TradeState.derive, Execution.kindsByTime,
        Execution.sortByTime_of_inTimeOrder List.Pairwise.nil, List.map_nil]
      exact Course.planned.replay_eq 0
    | some m => exact ⟨_, rfl⟩
  · exact ⟨T.plannedPositionSize, by simp [Lifecycle.remainingPosition, Decimal.isNonPositive,
      hpos, Execution.sortByTime, Lifecycle.replaySizes]⟩

/-- Setting the marker of a trade without fills keeps its history. -/
theorem mark {T : Trade} (h : T.HistoryOk []) (r : TerminalRecord) :
    ({ T with terminal := some r } : Trade).HistoryOk [] :=
  ⟨h.inTimeOrder, h.micros, h.course, fun _ => rfl, by simp, by simp, ⟨_, rfl⟩, h.remaining⟩

variable {T : Trade} {H hist : List Execution}

/-- A fill that passed the checks of recording against the history as the store read it
extends the history. -/
theorem append (h : T.HistoryOk H) (hperm : hist.Perm H)
    (hsort : Execution.sortByTime hist = Execution.sortByTime H) {slip : Decimal}
    {r : ExecutionRequest} {id : Uuid} {e : Execution}
    (hfill : Journal.checkFill slip r id T hist = .ok e) : T.HistoryOk (H ++ [e.stored]) := by
  obtain ⟨state, pnl, hm, hs, -, ht, hp, hz, hn, hv, -, -, rfl⟩ := Journal.checkFill_eq_ok hfill
  have hH : Execution.sortByTime H = H := Execution.sortByTime_of_inTimeOrder h.inTimeOrder
  have hmarker : T.marker = none := Journal.checkUnmarked_eq_ok.1 hm
  have hprice := Journal.isPositive_of_requirePositive hp
  have hsize := Journal.isPositive_of_requirePositive hz
  set e' : Execution := ⟨id, T.id, r.kind, r.price, r.positionSize, pnl.map (·.money),
    pnl.map (·.pips), r.executedAt.truncMicros, r.reason.filter fun t => !(trimBlank t).isEmpty⟩
  have hsize' : e'.stored.positionSize = r.positionSize := by
    simp [e', Decimal.plusZero_of_isPositive hsize]
  have hcourse : Course (H.map (·.kind)) state := by
    rw [TradeState.derive, Execution.kindsByTime, hsort, hH] at hs
    exact (replay_planned_eq_ok_iff _ _).1 hs
  have hcourse' : Course ((H ++ [e'.stored]).map (·.kind)) (state.apply r.kind) := by
    simpa [e'] using hcourse.snoc (TradeState.canTake_of_ensureTransition ht)
  have hlater : ∀ x ∈ H, x.executedAt.le e'.stored.executedAt = true := fun x hx =>
    Journal.le_of_checkNotEarlier hn x (hperm.mem_iff.2 hx)
  have horder := Execution.inTimeOrder_append h.inTimeOrder hlater
  have hH' := Execution.sortByTime_of_inTimeOrder horder
  obtain ⟨rem, hrem, hentry, hother⟩ := Lifecycle.validateSize_eq_ok hv
  have hplanned : T.plannedPositionSize.isNonPositive = false ∧
      Lifecycle.replaySizes T.plannedPositionSize false H = .ok rem := by
    unfold Lifecycle.remainingPosition at hrem
    split_ifs at hrem with hnp
    exact ⟨by simpa using hnp, by rwa [hsort, hH] at hrem⟩
  refine ⟨horder, ?_, ⟨_, hcourse'⟩, ?_, ?_, ?_, ?_, ?_⟩
  · intro x hx
    rcases List.mem_append.1 hx with hx | hx
    · exact h.micros x hx
    · rw [List.mem_singleton.1 hx]
      exact Instant.truncMicros_truncMicros _
  · intro hT
    simp [Trade.marker, Option.map_eq_none_iff] at hmarker
    simp [hmarker] at hT
  · intro x hx hk
    rcases List.mem_append.1 hx with hx | hx
    · exact h.entrySize x hx hk
    · rw [List.mem_singleton.1 hx] at hk ⊢
      rw [hsize']
      exact hentry (by simpa [e'] using hk)
  · intro x hx
    rcases List.mem_append.1 hx with hx | hx
    · exact h.positive x hx
    · rw [List.mem_singleton.1 hx]
      simp [e', Decimal.plusZero_of_isPositive hprice, Decimal.plusZero_of_isPositive hsize,
        hprice, hsize]
  · rw [hmarker, TradeState.derive, Execution.kindsByTime, hH']
    exact ⟨_, hcourse'.replay_eq 0⟩
  · unfold Lifecycle.remainingPosition
    rw [if_neg (by simp [hplanned.1]), hH', Lifecycle.replaySizes_append_single, hplanned.2,
      ok_bind]
    by_cases hk : r.kind = .entry
    · exact ⟨rem, by simp [e', hk]⟩
    · obtain ⟨hany, r', hr'⟩ := hother hk
      have hanyH : H.any (·.kind = .entry) = true := by
        obtain ⟨x, hx, hxk⟩ := List.any_eq_true.1 hany
        exact List.any_eq_true.2 ⟨x, hperm.mem_iff.1 hx, hxk⟩
      refine ⟨r', ?_⟩
      simp [e', hk, hanyH, Decimal.plusZero_of_isPositive hsize, hr']

end Trade.HistoryOk

end ForexJournal
