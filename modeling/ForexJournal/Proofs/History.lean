import Mathlib
import ForexJournal.Trade.Execution

/-!
# Histories in time order

Instants are ordered by seconds and then nanoseconds; this order is total and antisymmetric, so
two executions that sort as equal happened at the same instant. A history is read in time order
through a stable sort: the executions of each instant keep the order in which they were given.

A stable sort is determined by that description alone. `StableTimeSort h l` says that `l` is
sorted by time and lists, for every instant, the executions of `h` at that instant in their
order in `h`; `Execution.sortByTime` is such a list, and any two such lists are equal.
-/

namespace ForexJournal

namespace Instant

theorem le_iff {a b : Instant} :
    a.le b = true ↔ a.seconds < b.seconds ∨ (a.seconds = b.seconds ∧ a.nanos ≤ b.nanos) := by
  unfold le compare
  rcases lt_trichotomy a.seconds b.seconds with h | h | h
  · simp [compare_lt_iff_lt.2 h, h]
  · rw [h, compare_eq_iff_eq.2 rfl]
    simp only [lt_self_iff_false, true_and, false_or]
    rcases lt_trichotomy a.nanos b.nanos with h' | h' | h'
    · simp [compare_lt_iff_lt.2 h', h'.le]
    · simp [h']
    · simp [compare_gt_iff_gt.2 h', not_le.2 h']
  · simp [compare_gt_iff_gt.2 h, not_lt.2 h.le, h.ne']

theorem lt_iff {a b : Instant} :
    a.lt b = true ↔ a.seconds < b.seconds ∨ (a.seconds = b.seconds ∧ a.nanos < b.nanos) := by
  unfold lt compare
  rcases lt_trichotomy a.seconds b.seconds with h | h | h
  · simp [compare_lt_iff_lt.2 h, h]
  · rw [h, compare_eq_iff_eq.2 rfl]
    simp only [lt_self_iff_false, true_and, false_or]
    rcases lt_trichotomy a.nanos b.nanos with h' | h' | h'
    · simp [compare_lt_iff_lt.2 h', h']
    · simp [h']
    · simp [compare_gt_iff_gt.2 h', not_lt.2 h'.le]
  · simp [compare_gt_iff_gt.2 h, not_lt.2 h.le, h.ne']

theorem eq_iff {a b : Instant} : a = b ↔ a.seconds = b.seconds ∧ a.nanos = b.nanos := by
  cases a; cases b; simp

theorem le_refl (a : Instant) : a.le a = true := by
  rw [le_iff]; omega

theorem le_total (a b : Instant) : (a.le b || b.le a) = true := by
  simp only [Bool.or_eq_true, le_iff]; omega

theorem le_trans {a b c : Instant} (h₁ : a.le b = true) (h₂ : b.le c = true) : a.le c = true := by
  rw [le_iff] at *; omega

theorem le_antisymm {a b : Instant} (h₁ : a.le b = true) (h₂ : b.le a = true) : a = b := by
  rw [le_iff] at h₁ h₂
  rw [eq_iff]; omega

theorem lt_iff_not_le {a b : Instant} : a.lt b = true ↔ ¬ b.le a = true := by
  rw [lt_iff, le_iff]; omega

end Instant

section StableSort

variable {α β : Type} [DecidableEq β] (key : α → β) (le : β → β → Bool)

/-- Lists sorted by an antisymmetric order on keys, that list the elements of each key in the
same order, are equal. -/
theorem eq_of_sorted_of_classes_eq (antisymm : ∀ x y, le x y = true → le y x = true → x = y)
    {l₁ l₂ : List α} (h₁ : l₁.Pairwise fun a b => le (key a) (key b))
    (h₂ : l₂.Pairwise fun a b => le (key a) (key b))
    (hc : ∀ k, l₁.filter (fun a => key a = k) = l₂.filter (fun a => key a = k)) : l₁ = l₂ := by
  induction l₁ generalizing l₂ with
  | nil =>
    cases l₂ with
    | nil => rfl
    | cons b l₂ => simpa using hc (key b)
  | cons a l₁ ih =>
    cases l₂ with
    | nil => simpa using hc (key a)
    | cons b l₂ =>
      have hb : b ∈ a :: l₁ := by
        have : b ∈ (b :: l₂).filter (fun x => key x = key b) := by simp
        rw [← hc] at this
        exact (List.mem_filter.1 this).1
      have ha : a ∈ b :: l₂ := by
        have : a ∈ (a :: l₁).filter (fun x => key x = key a) := by simp
        rw [hc] at this
        exact (List.mem_filter.1 this).1
      have hkey : key a = key b := by
        rcases List.mem_cons.1 hb with rfl | hb
        · rfl
        rcases List.mem_cons.1 ha with rfl | ha
        · rfl
        exact antisymm _ _ (List.rel_of_pairwise_cons h₁ hb) (List.rel_of_pairwise_cons h₂ ha)
      have hab : a = b := by
        have h := hc (key a)
        simp only [List.filter_cons, hkey, decide_true, if_true] at h
        exact (List.cons.inj h).1
      subst hab
      rw [ih h₁.of_cons h₂.of_cons fun k => ?_]
      have h := hc k
      by_cases hk : key a = k
      · simpa [hk] using h
      · simpa [hk] using h

theorem filter_mergeSort_key (trans : ∀ x y z, le x y = true → le y z = true → le x z = true)
    (total : ∀ x y, (le x y || le y x) = true) (l : List α) (k : β) :
    (l.mergeSort fun a b => le (key a) (key b)).filter (fun a => key a = k) =
      l.filter (fun a => key a = k) := by
  have hsorted : (l.filter fun a => key a = k).Pairwise fun a b => le (key a) (key b) :=
    List.pairwise_of_forall_mem_list fun a ha b hb => by
      simp only [List.mem_filter, decide_eq_true_eq] at ha hb
      rw [ha.2, hb.2]
      simpa using total k k
  have hsub := List.sublist_mergeSort (fun a b c => trans (key a) (key b) (key c))
    (fun a b => total (key a) (key b)) hsorted List.filter_sublist
  have hsub' := hsub.filter (fun a => key a = k)
  rw [List.filter_filter] at hsub'
  simp only [Bool.and_self] at hsub'
  refine (hsub'.eq_of_length ?_).symm
  exact ((List.mergeSort_perm l _).filter _).length_eq.symm

end StableSort

namespace Execution

/-- No execution of the history happened before an earlier one. -/
def InTimeOrder (h : List Execution) : Prop :=
  h.Pairwise fun a b => a.executedAt.le b.executedAt

/-- `l` lists the executions of `h` in time order, and those of each instant in their order
in `h`. -/
def StableTimeSort (h l : List Execution) : Prop :=
  InTimeOrder l ∧ ∀ t, l.filter (fun e => e.executedAt = t) = h.filter (fun e => e.executedAt = t)

theorem sortByTime_inTimeOrder (h : List Execution) : InTimeOrder (sortByTime h) := by
  unfold InTimeOrder sortByTime
  exact @List.pairwise_mergeSort _ (fun a b => a.executedAt.le b.executedAt)
    (fun _ _ _ => Instant.le_trans) (fun a b => Instant.le_total a.executedAt b.executedAt) h

theorem sortByTime_stable (h : List Execution) : StableTimeSort h (sortByTime h) :=
  ⟨sortByTime_inTimeOrder h, filter_mergeSort_key executedAt Instant.le
    (fun _ _ _ => Instant.le_trans) Instant.le_total h⟩

theorem StableTimeSort.eq {h l l' : List Execution} (hl : StableTimeSort h l)
    (hl' : StableTimeSort h l') : l = l' :=
  eq_of_sorted_of_classes_eq executedAt Instant.le (fun _ _ => Instant.le_antisymm) hl.1 hl'.1
    fun t => (hl.2 t).trans (hl'.2 t).symm

theorem sortByTime_eq_of_stable {h l : List Execution} (hl : StableTimeSort h l) :
    sortByTime h = l :=
  (sortByTime_stable h).eq hl

theorem sortByTime_of_inTimeOrder {h : List Execution} (hh : InTimeOrder h) : sortByTime h = h :=
  List.mergeSort_of_pairwise hh

theorem inTimeOrder_append {h : List Execution} {e : Execution} (hh : InTimeOrder h)
    (he : ∀ x ∈ h, x.executedAt.le e.executedAt = true) : InTimeOrder (h ++ [e]) :=
  List.pairwise_append.2 ⟨hh, List.pairwise_singleton _ _, fun x hx y hy => by
    rw [List.mem_singleton.1 hy]; exact he x hx⟩

end Execution

end ForexJournal
