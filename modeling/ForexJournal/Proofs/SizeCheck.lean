import Mathlib
import ForexJournal.Proofs.FillHistory

/-!
# Checking a fill is replaying it

`Lifecycle.validateSize` checks a fill against the open size of the history it would extend,
computed from that history alone, and asks the history itself whether it holds an entry.
`Lifecycle.remainingPosition` of the longer history replays all fills in time order and keeps
its own flag for the entry. For a fill that is not an entry and is no earlier than any fill of
the history, the two agree, error for error: the stable sort by time puts the new fill last,
so the replay meets the history first, in its own time order, and its flag is then set exactly
when the history holds an entry, wherever the entries stand.

Main statement: `Lifecycle.validateSize_eq_replay`.
-/

namespace ForexJournal

namespace Execution

/-- A fill no earlier than any of a history comes last in the time order of the longer
history. -/
theorem sortByTime_append_latest {h : List Execution} {e : Execution}
    (he : ∀ x ∈ h, x.executedAt.le e.executedAt = true) :
    sortByTime (h ++ [e]) = sortByTime h ++ [e] := by
  apply sortByTime_eq_of_stable
  refine ⟨inTimeOrder_append (sortByTime_inTimeOrder h) fun x hx => he x ?_, fun t => ?_⟩
  · exact (List.mergeSort_perm h _).mem_iff.1 hx
  · rw [List.filter_append, List.filter_append, (sortByTime_stable h).2 t]

end Execution

namespace Lifecycle

private theorem bind_discard {α : Type} (x : Except JournalError α) :
    Except.bind x (fun _ => .ok ()) = (fun _ => ()) <$> x := by
  cases x <;> rfl

/-- What a fill that is not an entry leaves open, once it fits: the rest after a partial
close, nothing after a closing fill. -/
theorem applySize_eq_ok {k : ExecutionKind} {size rem r : Decimal} (hk : k ≠ .entry)
    (h : applySize k size rem = .ok r) :
    r = if k = .partialClose then rem.sub size else Decimal.zero := by
  cases k with
  | entry => exact absurd rfl hk
  | partialClose =>
    simp only [applySize] at h
    split_ifs at h
    cases h
    rfl
  | tpHit | slHit | manualClose =>
    simp only [applySize] at h
    split_ifs at h
    cases h
    rfl

/-- The open size after one more fill that is not an entry and comes last in time: the open
size of the history, then the fill checked against it, refused as premature when the history
holds no entry. -/
theorem remainingPosition_append_latest {planned : Decimal} {h : List Execution}
    {e : Execution} (hk : e.kind ≠ .entry) (he : ∀ x ∈ h, x.executedAt.le e.executedAt = true) :
    remainingPosition planned (h ++ [e]) = remainingPosition planned h >>= fun r =>
      if !h.any (·.kind = .entry) then .error (.prematureExecution e.kind)
      else applySize e.kind e.positionSize r := by
  unfold remainingPosition
  split
  · rfl
  · have hany : (Execution.sortByTime h).any (·.kind = .entry) = h.any (·.kind = .entry) :=
      (List.mergeSort_perm h _).any_eq
    rw [Execution.sortByTime_append_latest he, replaySizes_append_single, hany]
    simp only [hk, if_false, Bool.false_or]

/-- Checking a fill that is not an entry, against a history none of whose fills is later, is
replaying the history with the fill appended and dropping the open size: both succeed
together or fail with the same error. After a check that passes, the replay leaves the
history's open size less the fill's size for a partial close, and nothing for a closing
fill. -/
theorem validateSize_eq_replay {k : ExecutionKind} {size planned : Decimal}
    {h : List Execution} {e : Execution} (hk : k ≠ .entry) (hek : e.kind = k)
    (hes : e.positionSize = size) (he : ∀ x ∈ h, x.executedAt.le e.executedAt = true) :
    validateSize k size planned h = (fun _ => ()) <$> remainingPosition planned (h ++ [e]) ∧
    ∀ r, remainingPosition planned (h ++ [e]) = .ok r →
      ∃ r₀, remainingPosition planned h = .ok r₀ ∧
        r = if k = .partialClose then r₀.sub size else Decimal.zero := by
  subst hek hes
  have happ := @remainingPosition_append_latest planned h e hk he
  refine ⟨?_, fun r hr => ?_⟩
  · rw [happ]
    cases hrem : remainingPosition planned h with
    | error err => simp only [validateSize, hrem, bind, Except.bind, Functor.map, Except.map]
    | ok r₀ =>
      cases hkind : e.kind with
      | entry => exact absurd hkind hk
      | _ =>
        simp only [validateSize, hrem, bind, Except.bind]
        split
        · rfl
        · exact bind_discard _
  · rw [happ] at hr
    obtain ⟨r₀, hr₀, hstep⟩ := except_bind_eq_ok.1 hr
    split at hstep
    · cases hstep
    · exact ⟨r₀, hr₀, applySize_eq_ok hk hstep⟩

/-- An entry of one lot, then a partial close of half a lot one minute later. -/
theorem validateSize_eq_replay_after_entry :
    let fill (k : ExecutionKind) (size : Decimal) (t : Instant) : Execution :=
      ⟨Uuid.nil, Uuid.nil, k, Decimal.ofMantissa 11 1, size, none, none, t, none⟩
    let h := [fill .entry (Decimal.ofMantissa 1 0) Instant.epoch]
    let e := fill .partialClose (Decimal.ofMantissa 5 1) (Instant.epoch.addSeconds 60)
    ExecutionKind.partialClose ≠ .entry ∧ e.kind = .partialClose ∧
      e.positionSize = Decimal.ofMantissa 5 1 ∧ (∀ x ∈ h, x.executedAt.le e.executedAt = true) ∧
      (validateSize .partialClose (Decimal.ofMantissa 5 1) (Decimal.ofMantissa 1 0) h =
          (fun _ => ()) <$> remainingPosition (Decimal.ofMantissa 1 0) (h ++ [e]) ∧
        ∀ r, remainingPosition (Decimal.ofMantissa 1 0) (h ++ [e]) = .ok r →
          ∃ r₀, remainingPosition (Decimal.ofMantissa 1 0) h = .ok r₀ ∧
            r = if ExecutionKind.partialClose = .partialClose then
              r₀.sub (Decimal.ofMantissa 5 1) else Decimal.zero) :=
  ⟨by decide, rfl, rfl, by decide, validateSize_eq_replay (by decide) rfl rfl (by decide)⟩

end Lifecycle

end ForexJournal
