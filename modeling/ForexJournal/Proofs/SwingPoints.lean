import Mathlib
import ForexJournal.Market.Swing

/-!
# Swing points of a history

A bar is a swing high when its high is strictly above the highs of the two bars on each side of
it, and a swing low when its low is strictly below theirs (`standsOut`). After bar `i` the last
swing high is the high of the last swing high among the bars up to `i`; it needs the two bars
after it, so it is at most bar `i - 2` (`lastSwingHigh`, `lastSwingLow`).

The tracker keeps the last five bars and, once it has five, compares the middle one with the
four around it. Taking in one bar adds exactly one candidate, the bar two back, so the tracker's
state after any prefix is the last five bars and the last swings of that prefix
(`SwingTracker.Tracks.step`), and its outputs are `lastSwingHigh` and `lastSwingLow` at every bar
(`SwingTracker.run_empty`).
-/

namespace ForexJournal

/-- Bar `j` of `xs` stands out by `beats`: there are two bars on each side of it, and its value
beats each of theirs. -/
def standsOut (beats : Decimal → Decimal → Bool) (xs : List Decimal) (j : Nat) : Bool :=
  decide (2 ≤ j ∧ j + 2 < xs.length) &&
    [j - 2, j - 1, j + 1, j + 2].all fun o => beats (xs.getD j .zero) (xs.getD o .zero)

/-- The value of the last bar of `xs` that stands out by `beats`. -/
def lastStandout (beats : Decimal → Decimal → Bool) (xs : List Decimal) : Option Decimal :=
  ((List.range xs.length).filter (standsOut beats xs)).getLast?.map (xs.getD · .zero)

/-- A high beats a neighbour's high that is strictly below it. -/
def highBeats (m x : Decimal) : Bool := x.lt m

/-- A low beats a neighbour's low that is strictly above it. -/
def lowBeats (m x : Decimal) : Bool := m.lt x

/-- The last swing high confirmed by bar `i`: the high of the last bar `j`, `2 ≤ j ≤ i - 2`, whose
high is strictly above those of bars `j - 2`, `j - 1`, `j + 1` and `j + 2`. -/
def lastSwingHigh (highs : List Decimal) (i : Nat) : Option Decimal :=
  lastStandout highBeats (highs.take (i + 1))

/-- The last swing low confirmed by bar `i`: the mirror image of `lastSwingHigh`, with lows and
strictly below. -/
def lastSwingLow (lows : List Decimal) (i : Nat) : Option Decimal :=
  lastStandout lowBeats (lows.take (i + 1))

section Standout

variable {beats : Decimal → Decimal → Bool}

theorem standsOut_of_length_le {xs : List Decimal} {j : Nat} (h : xs.length ≤ j + 2) :
    standsOut beats xs j = false := by
  simp only [standsOut, Bool.and_eq_false_iff, decide_eq_false_iff_not, not_and, not_lt]
  exact .inl fun _ => h

theorem standsOut_append {xs : List Decimal} {x : Decimal} {j : Nat} (hj : j + 2 < xs.length) :
    standsOut beats (xs ++ [x]) j = standsOut beats xs j := by
  have h : ∀ o, o ≤ j + 2 → (xs ++ [x]).getD o .zero = xs.getD o .zero :=
    fun o ho => List.getD_append _ _ _ _ (by omega)
  simp only [standsOut, List.length_append, List.length_singleton, List.all_cons, List.all_nil,
    h j (by omega), h (j - 2) (by omega), h (j - 1) (by omega), h (j + 1) (by omega),
    h (j + 2) le_rfl]
  congr 1
  simp only [decide_eq_decide]
  omega

theorem filter_standsOut_append (xs : List Decimal) (x : Decimal) :
    (List.range (xs.length + 1)).filter (standsOut beats (xs ++ [x])) =
      (List.range xs.length).filter (standsOut beats xs) ++
        if standsOut beats (xs ++ [x]) (xs.length - 2) then [xs.length - 2] else [] := by
  rcases Nat.lt_or_ge xs.length 2 with hn | hn
  · have hnone : ∀ (ys : List Decimal) (j : Nat), j < 2 → standsOut beats ys j = false := by
      intro ys j hj
      simp only [standsOut, Bool.and_eq_false_iff, decide_eq_false_iff_not, not_and, not_lt]
      exact .inl fun h => absurd h (by omega)
    rw [hnone _ _ (by omega), List.filter_eq_nil_iff.2 fun j hj => by
        rw [List.mem_range] at hj
        simp [hnone _ j (by omega)],
      List.filter_eq_nil_iff.2 fun j hj => by
        rw [List.mem_range] at hj
        simp [hnone _ j (by omega)]]
    rfl
  · obtain ⟨m, hm⟩ : ∃ m, xs.length = m + 2 := ⟨xs.length - 2, by omega⟩
    have hold : ∀ j, m ≤ j → standsOut beats xs j = false :=
      fun j hj => standsOut_of_length_le (by omega)
    have hnew : ∀ j, m + 1 ≤ j → standsOut beats (xs ++ [x]) j = false :=
      fun j hj => standsOut_of_length_le (by simp; omega)
    have hpre : (List.range m).filter (standsOut beats (xs ++ [x])) =
        (List.range m).filter (standsOut beats xs) :=
      List.filter_congr fun j hj => standsOut_append (by rw [List.mem_range] at hj; omega)
    rw [hm, show m + 2 - 2 = m by omega]
    simp only [List.range_succ, List.filter_append, List.filter_singleton, hpre, hold m le_rfl,
      hold (m + 1) (by omega), hnew (m + 1) le_rfl, hnew (m + 2) (by omega), cond_false,
      List.append_nil]
    cases standsOut beats (xs ++ [x]) m <;> rfl

/-- The last bar that stands out after one more bar: the bar two back if it does, else the last
one before. -/
theorem lastStandout_append (xs : List Decimal) (x : Decimal) :
    lastStandout beats (xs ++ [x]) =
      if standsOut beats (xs ++ [x]) (xs.length - 2) then some (xs.getD (xs.length - 2) .zero)
      else lastStandout beats xs := by
  unfold lastStandout
  rw [List.length_append, List.length_singleton, filter_standsOut_append]
  split
  · rename_i h
    have hlen : xs.length - 2 < xs.length := by
      simp only [standsOut, List.length_append, List.length_singleton, Bool.and_eq_true,
        decide_eq_true_eq] at h
      omega
    rw [← List.getD_append _ [x] _ _ hlen]
    simp
  · rw [List.append_nil]
    cases hl : ((List.range xs.length).filter (standsOut beats xs)).getLast? with
    | none => rfl
    | some j =>
      have hj := List.mem_of_getLast? hl
      rw [List.mem_filter, List.mem_range] at hj
      exact congrArg some (List.getD_append _ _ _ _ hj.1)

theorem lastStandout_append_short {xs : List Decimal} (x : Decimal) (h : xs.length < 4) :
    lastStandout beats (xs ++ [x]) = lastStandout beats xs := by
  have hout : standsOut beats (xs ++ [x]) (xs.length - 2) = false := by
    simp only [standsOut, Bool.and_eq_false_iff, decide_eq_false_iff_not, not_and, not_lt]
    exact .inl fun h2 => absurd h2 (by omega)
  rw [lastStandout_append, hout]
  rfl

/-- The last of five bars settles the middle one: it is the last bar to stand out if it beats
the four around it. -/
theorem lastStandout_append_five (q : List Decimal) (a b c d e : Decimal) :
    lastStandout beats (q ++ [a, b, c, d, e]) =
      if (beats c a && beats c b && beats c d && beats c e) then some c
      else lastStandout beats (q ++ [a, b, c, d]) := by
  have happ := @lastStandout_append beats (q ++ [a, b, c, d]) e
  simp only [List.append_assoc, List.cons_append, List.nil_append, List.length_append,
    List.length_cons, List.length_nil] at happ
  rw [happ, show q.length + (0 + 1 + 1 + 1 + 1) - 2 = q.length + 2 by omega]
  have hget : ∀ (ys : List Decimal) (o : Nat), o < 5 →
      (q ++ ys).getD (q.length + o) .zero = ys.getD o .zero := fun ys o _ => by
    rw [List.getD_append_right _ _ _ _ (by omega), Nat.add_sub_cancel_left]
  have hstands : standsOut beats (q ++ [a, b, c, d, e]) (q.length + 2) =
      (beats c a && beats c b && beats c d && beats c e) := by
    simp only [standsOut, List.length_append, List.length_cons, List.length_nil, List.all_cons,
      List.all_nil, Bool.and_true, show q.length + 2 - 2 = q.length + 0 by omega,
      show q.length + 2 - 1 = q.length + 1 by omega, show q.length + 2 + 1 = q.length + 3 by omega,
      show q.length + 2 + 2 = q.length + 4 by omega, hget _ _ (show 0 < 5 by omega),
      hget _ _ (show 1 < 5 by omega), hget _ _ (show 2 < 5 by omega),
      hget _ _ (show 3 < 5 by omega), hget _ _ (show 4 < 5 by omega)]
    simp [Bool.and_assoc]
  rw [hstands, hget [a, b, c, d] 2 (by omega)]
  rfl

end Standout

namespace SwingTracker

/-- The tracker has taken in the bars `p`: it holds the last five of them and the last swings
they confirm. -/
structure Tracks (t : SwingTracker) (p : List (Decimal × Decimal)) : Prop where
  window : t.window = p.drop (p.length - windowSize)
  high : t.lastHigh = lastStandout highBeats (p.map Prod.fst)
  low : t.lastLow = lastStandout lowBeats (p.map Prod.snd)

theorem tracks_empty : Tracks empty [] := ⟨rfl, rfl, rfl⟩

private theorem exists_eq_five {w : List (Decimal × Decimal)} (h : w.length = 5) :
    ∃ a b m l d e, w = [a, b, (m, l), d, e] := by
  match w, h with
  | [a, b, (m, l), d, e], _ => exact ⟨a, b, m, l, d, e, rfl⟩

private theorem window_step {t : SwingTracker} {p : List (Decimal × Decimal)}
    (h : t.window = p.drop (p.length - windowSize)) (x : Decimal × Decimal) :
    (if t.window.length = windowSize then t.window.drop 1 else t.window) ++ [x] =
      (p ++ [x]).drop ((p ++ [x]).length - windowSize) := by
  rw [h]
  simp only [List.length_drop, windowSize, List.length_append, List.length_singleton]
  split
  · rw [List.drop_drop, List.drop_append_of_le_length (by omega)]
    congr 2
    omega
  · rw [show p.length + 1 - 5 = 0 by omega, show p.length - 5 = 0 by omega]
    rfl

/-- Taking in one bar keeps the tracker on the last five bars and the last swings. -/
theorem Tracks.step {t : SwingTracker} {p : List (Decimal × Decimal)} (h : Tracks t p)
    (hi lo : Decimal) : Tracks (t.step hi lo) (p ++ [(hi, lo)]) := by
  have hw := window_step h.window (hi, lo)
  unfold SwingTracker.step
  dsimp only
  rw [hw]
  split
  · next a b mh ml d e heq =>
    obtain ⟨q, hq⟩ : ∃ q, p ++ [(hi, lo)] = q ++ [a, b, (mh, ml), d, e] :=
      ⟨_, (List.take_append_drop _ _).symm.trans (congrArg _ heq)⟩
    obtain ⟨hp, he⟩ : p = q ++ [a, b, (mh, ml), d] ∧ [(hi, lo)] = [e] :=
      List.append_inj' (by simpa using hq) rfl
    subst hp
    cases he
    obtain ⟨a1, a2⟩ := a
    obtain ⟨b1, b2⟩ := b
    obtain ⟨d1, d2⟩ := d
    refine ⟨rfl, ?_, ?_⟩
    · simp only [hq, List.map_append, List.map_cons, List.map_nil, lastStandout_append_five,
        h.high, List.all_cons, List.all_nil, Bool.and_true, Bool.and_assoc, highBeats]
    · simp only [hq, List.map_append, List.map_cons, List.map_nil, lastStandout_append_five,
        h.low, List.all_cons, List.all_nil, Bool.and_true, Bool.and_assoc, lowBeats]
  · next hne =>
    have hshort : p.length < 4 := by
      by_contra hlong
      obtain ⟨a, b, m, l, d, e, h5⟩ := exists_eq_five (w := (p ++ [(hi, lo)]).drop
        ((p ++ [(hi, lo)]).length - windowSize)) (by simp [windowSize]; omega)
      exact hne a b m l d e h5
    refine ⟨rfl, ?_, ?_⟩
    · rw [List.map_append, List.map_singleton, lastStandout_append_short _ (by simpa using hshort)]
      exact h.high
    · rw [List.map_append, List.map_singleton, lastStandout_append_short _ (by simpa using hshort)]
      exact h.low

/-- From a tracker that has taken in `p`, the output after each of the next bars is the last
swings of the history up to it. -/
theorem Tracks.run {t : SwingTracker} {p : List (Decimal × Decimal)} (h : Tracks t p)
    (bars : List (Decimal × Decimal)) :
    t.run bars = (List.range bars.length).map fun i =>
      (lastStandout highBeats ((p ++ bars.take (i + 1)).map Prod.fst),
        lastStandout lowBeats ((p ++ bars.take (i + 1)).map Prod.snd)) := by
  induction bars generalizing t p with
  | nil => rfl
  | cons b bars ih =>
    obtain ⟨hi, lo⟩ := b
    have h' := h.step hi lo
    rw [SwingTracker.run, ih h', List.length_cons, List.range_succ_eq_map, List.map_cons,
      List.map_map, h'.high, h'.low]
    simp

/-- The tracker's output after each bar is the last swing high and the last swing low of the
history up to that bar. -/
theorem run_empty (bars : List (Decimal × Decimal)) :
    empty.run bars = (List.range bars.length).map fun i =>
      (lastSwingHigh (bars.map Prod.fst) i, lastSwingLow (bars.map Prod.snd) i) := by
  rw [tracks_empty.run]
  simp [lastSwingHigh, lastSwingLow, List.map_take]

end SwingTracker

end ForexJournal
