import Mathlib
import ForexJournal.Proofs.DecimalSign
import ForexJournal.Proofs.DecimalValue
import ForexJournal.Proofs.FillHistory
import ForexJournal.Proofs.TradeHistories

/-!
# The profit of a closing fill

`Risk.pnl` measures a closing fill from the price of the first entry in time order. It takes
the move in favour of the bias, turns it into pips by a division by the pip size, and back
into money by multiplying with the pip size, the lots and the contract size.

Three things follow. Short and long read one move with the sign turned over, and every
operation on the way mirrors the sign, so the two results fail with the same error or carry
opposite money and pips (`Risk.pnl_short_long`). The entry is the first entry of the stable time
order, whatever fills come with it (`Risk.pnl_eq_first_entry`). And for a pip size of `10 ^ -j`,
as for the pairs the journal trades, the pips are the move with the point moved: multiplying
back gives the move exactly, and the money is the product of move, lots and contract size
taken directly (`Risk.pnl_pow10_exact`).
-/

namespace ForexJournal

/-- Results that fail with the same error, or succeed with values related by `R`. -/
inductive ResultRel {α β : Type} (R : α → β → Prop) :
    Except JournalError α → Except JournalError β → Prop
  | error (err : JournalError) : ResultRel R (.error err) (.error err)
  | ok {a : α} {b : β} : R a b → ResultRel R (.ok a) (.ok b)

namespace ResultRel

variable {α β γ δ : Type} {R : α → β → Prop} {S : γ → δ → Prop}

theorem bind {x : Except JournalError α} {y : Except JournalError β}
    {f : α → Except JournalError γ} {g : β → Except JournalError δ} (h : ResultRel R x y)
    (hf : ∀ a b, R a b → ResultRel S (f a) (g b)) : ResultRel S (x >>= f) (y >>= g) := by
  cases h with
  | error err => exact .error err
  | ok hab => exact hf _ _ hab

theorem bind_same {x : Except JournalError α} {f : α → Except JournalError γ}
    {g : α → Except JournalError δ} (hf : ∀ a, x = .ok a → ResultRel S (f a) (g a)) :
    ResultRel S (x >>= f) (x >>= g) := by
  cases x with
  | error err => exact .error err
  | ok a => exact hf a rfl

theorem inRange (field : String) {R : Decimal → Decimal → Prop} {o o' : Option Decimal}
    (h : Option.Rel R o o') : ResultRel R (Risk.inRange field o) (Risk.inRange field o') := by
  cases h with
  | some h => exact .ok h
  | none => exact .error _

end ResultRel

theorem optionRel_bind {α β γ δ : Type} {R : α → β → Prop} {S : γ → δ → Prop}
    {o : Option α} {o' : Option β} {f : α → Option γ} {g : β → Option δ}
    (h : Option.Rel R o o') (hf : ∀ a b, R a b → Option.Rel S (f a) (g b)) :
    Option.Rel S (o.bind f) (o'.bind g) := by
  cases h with
  | some hab => exact hf _ _ hab
  | none => exact .none

namespace Decimal

theorem isZero_eq_false_of_isNonPositive {d : Decimal} (h : d.isNonPositive = false) :
    d.isZero = false := by
  simp only [isNonPositive, isPositive, Bool.not_eq_false', Bool.and_eq_true, bne_iff_ne] at h
  simpa [isZero] using h.2

end Decimal

namespace Lifecycle

theorem actualEntryPrice_eq_ok {h : List Execution} {p : Decimal}
    (hp : actualEntryPrice h = .ok p) :
    p.isNonPositive = false ∧ ∃ e, (Execution.sortByTime h).find? (·.kind = .entry) = some e ∧
      p = e.price := by
  unfold actualEntryPrice at hp
  split at hp
  · cases hp
  · rename_i e he
    split at hp
    · cases hp
    · rename_i hpos
      cases hp
      exact ⟨by simpa using hpos, e, he, rfl⟩

/-- Only the first entry in time order is read: fills before it, none an entry, and fills
after it, of any kind, leave the entry price as that fill alone gives it. -/
theorem actualEntryPrice_eq_first {h pre post : List Execution} {e : Execution}
    (hs : Execution.sortByTime h = pre ++ e :: post) (he : e.kind = .entry)
    (hpre : ∀ x ∈ pre, x.kind ≠ .entry) : actualEntryPrice h = actualEntryPrice [e] := by
  have hfind : (Execution.sortByTime h).find? (·.kind = .entry) = some e := by
    rw [hs, List.find?_append, List.find?_eq_none.2 (by simpa using hpre)]
    simp [he]
  have hone : Execution.sortByTime [e] = [e] := List.mergeSort_singleton e
  unfold actualEntryPrice
  rw [hfind, hone]
  simp [he]

end Lifecycle

namespace Risk

theorem isZero_of_requirePositive {field : String} {v : Decimal}
    (h : requirePositive field v = .ok ()) : v.isZero = false := by
  unfold requirePositive at h
  split_ifs at h with hv
  exact Decimal.isZero_eq_false_of_isNonPositive (by simpa using hv)

/-- The move of the price in favour of the bias: up for a long trade, down for a short one. -/
def moveInFavour (bias : Bias) (close entry : Decimal) : Decimal :=
  match bias with
  | .long => close.sub entry
  | .short => entry.sub close

theorem pnl_eq_move (bias : Bias) (h : List Execution) (close size pip contract : Decimal) :
    pnl bias h close size pip contract = (do
      requirePositive "pip size" pip
      requirePositive "close price" close
      let entry ← Lifecycle.actualEntryPrice h
      let pips ← inRange "pnl" ((moveInFavour bias close entry).checkedDiv pip)
      let money ← inRange "pnl" ((pips.checkedMul pip).bind (·.checkedMul size) |>.bind
        (·.checkedMul contract))
      .ok ⟨money, pips⟩) := by
  cases bias <;> rfl

def Pnl.Opposite (s l : Pnl) : Prop := s.money.Opposite l.money ∧ s.pips.Opposite l.pips

/-- Closing a short trade and a long one at one price, from one history: the two fail with
the same error, or the short's money and pips are the long's with the sign turned over. -/
theorem pnl_short_long (h : List Execution) (close size pip contract : Decimal) :
    ResultRel Pnl.Opposite (pnl .short h close size pip contract)
      (pnl .long h close size pip contract) := by
  rw [pnl_eq_move, pnl_eq_move]
  refine ResultRel.bind_same fun _ _ => ResultRel.bind_same fun _ hc =>
    ResultRel.bind_same fun entry hentry => ?_
  have hmove : (moveInFavour .short close entry).Opposite (moveInFavour .long close entry) :=
    Decimal.sub_swap (isZero_of_requirePositive hc)
      (Decimal.isZero_eq_false_of_isNonPositive (Lifecycle.actualEntryPrice_eq_ok hentry).1)
  refine (ResultRel.inRange _ (hmove.checkedDiv pip)).bind fun ps pl hp => ?_
  have hmoney := optionRel_bind (optionRel_bind (hp.checkedMul pip) fun _ _ h => h.checkedMul size)
    fun _ _ h => h.checkedMul contract
  exact (ResultRel.inRange _ hmoney).bind fun _ _ hm => .ok ⟨hm, hp⟩

/-- The profit of a closing fill is the one measured from the first entry in time order
alone. -/
theorem pnl_eq_first_entry {h pre post : List Execution} {e : Execution}
    (hs : Execution.sortByTime h = pre ++ e :: post) (he : e.kind = .entry)
    (hpre : ∀ x ∈ pre, x.kind ≠ .entry) (bias : Bias) (close size pip contract : Decimal) :
    pnl bias h close size pip contract = pnl bias [e] close size pip contract := by
  rw [pnl_eq_move, pnl_eq_move, Lifecycle.actualEntryPrice_eq_first hs he hpre]

/-- With a pip size of `10 ^ -j`, a profit that is computed loses nothing to the pips: they
are the move with the point moved `j` places, multiplying them back by the pip size gives the
move exactly, and the money is the move times the lots times the contract size, taken
directly. -/
theorem pnl_pow10_exact {bias : Bias} {h : List Execution} {close size contract : Decimal}
    {j : Nat} {r : Pnl} (hj : j ≤ maxScale)
    (hr : pnl bias h close size (Decimal.ofMantissa 1 j) contract = .ok r) :
    ∃ entry, Lifecycle.actualEntryPrice h = .ok entry ∧
      r.pips.val = (moveInFavour bias close entry).val * 10 ^ j ∧
      (∃ x, r.pips.checkedMul (Decimal.ofMantissa 1 j) = some x ∧
        x.val = (moveInFavour bias close entry).val) ∧
      ∃ m, ((moveInFavour bias close entry).checkedMul size).bind (·.checkedMul contract) =
        some m ∧ m.val = r.money.val := by
  rw [pnl_eq_move] at hr
  obtain ⟨-, -, hr⟩ := except_bind_eq_ok.1 hr
  obtain ⟨-, -, hr⟩ := except_bind_eq_ok.1 hr
  obtain ⟨entry, hentry, hr⟩ := except_bind_eq_ok.1 hr
  obtain ⟨pips, hpips, hr⟩ := except_bind_eq_ok.1 hr
  obtain ⟨money, hmoney, hr⟩ := except_bind_eq_ok.1 hr
  cases hr
  rw [inRange_eq_ok] at hpips hmoney
  set move := moveInFavour bias close entry
  obtain ⟨hpv, hps⟩ := Decimal.checkedDiv_pow10 hj hpips
  have hscale : pips.scale + (Decimal.ofMantissa 1 j).scale ≤ maxScale := by
    have := move.scale_le
    rw [Decimal.ofMantissa_one hj]
    dsimp only
    unfold maxScale at *
    omega
  obtain ⟨x, hx, hxv⟩ := Decimal.checkedMul_exact hscale
    (by rw [Decimal.ofMantissa_one hj, Nat.mul_one]; exact pips.mantissa_lt)
  have hxmove : x.val = move.val := by
    rw [hxv, hpv, Decimal.val_ofMantissa (by decide) hj, Nat.cast_one]
    field_simp
  refine ⟨entry, hentry, hpv, ⟨x, hx, hxmove⟩, ?_⟩
  have hcongr := Decimal.bind_checkedMul_map_val
    (Decimal.checkedMul_map_val_congr hxmove.symm size) contract
  rw [hx, Option.bind_some] at hmoney
  rw [hmoney, Option.map_some] at hcongr
  exact Option.map_eq_some_iff.1 hcongr

/-- The profit of a closing fill, from both sides: the short and the long result fail with the
same error or are opposite; only the first entry in time order is read; and with a pip size of
`10 ^ -j` the pips lose nothing, so the money is the move times the lots times the contract
size. -/
theorem pnl_mirrored_first_entry_exact (h : List Execution) (close size pip contract : Decimal) :
    ResultRel Pnl.Opposite (pnl .short h close size pip contract)
      (pnl .long h close size pip contract) ∧
    (∀ pre e post, Execution.sortByTime h = pre ++ e :: post → e.kind = .entry →
      (∀ x ∈ pre, x.kind ≠ .entry) →
        ∀ bias, pnl bias h close size pip contract = pnl bias [e] close size pip contract) ∧
    (∀ j, j ≤ maxScale → pip = Decimal.ofMantissa 1 j → ∀ bias r,
      pnl bias h close size pip contract = .ok r →
      ∃ entry, Lifecycle.actualEntryPrice h = .ok entry ∧
        r.pips.val = (moveInFavour bias close entry).val * 10 ^ j ∧
        (∃ x, r.pips.checkedMul pip = some x ∧ x.val = (moveInFavour bias close entry).val) ∧
        ∃ m, ((moveInFavour bias close entry).checkedMul size).bind (·.checkedMul contract) =
          some m ∧ m.val = r.money.val) :=
  ⟨pnl_short_long h close size pip contract,
    fun _ _ _ hs he hpre bias => pnl_eq_first_entry hs he hpre bias close size pip contract,
    fun _ hj hpip _ _ hr => by subst hpip; exact pnl_pow10_exact hj hr⟩

/-- A long trade entered at 1.1000, partly closed at 1.1050 and entered again at 1.1100,
one lot of 100000 on a pip of 0.0001: the first entry counts, for 50 pips and 500 in money,
the short side the same turned over. -/
theorem pnl_mirrored_first_entry_exact_eurusd :
    let fill (k : ExecutionKind) (p : Decimal) (t : Int) : Execution :=
      ⟨Uuid.nil, Uuid.nil, k, p, Decimal.ofMantissa 1 0, none, none, Instant.epoch.addSeconds t,
        none⟩
    let e := fill .entry (Decimal.ofMantissa 11000 4) 0
    let later := [fill .partialClose (Decimal.ofMantissa 11050 4) 60,
      fill .entry (Decimal.ofMantissa 11100 4) 120]
    let close := Decimal.ofMantissa 11050 4
    let size := Decimal.ofMantissa 1 0
    let pip := Decimal.ofMantissa 1 4
    let contract := Decimal.ofMantissa 100000 0
    let r : Pnl := ⟨Decimal.ofMantissa 5000000 4, Decimal.ofMantissa 50 0⟩
    ResultRel Pnl.Opposite (pnl .short (e :: later) close size pip contract)
      (pnl .long (e :: later) close size pip contract) ∧
    pnl .long (e :: later) close size pip contract = pnl .long [e] close size pip contract ∧
    pnl .long (e :: later) close size pip contract = .ok r ∧
    ∃ entry, Lifecycle.actualEntryPrice (e :: later) = .ok entry ∧
      r.pips.val = (moveInFavour .long close entry).val * 10 ^ 4 ∧
      (∃ x, r.pips.checkedMul pip = some x ∧ x.val = (moveInFavour .long close entry).val) ∧
      ∃ m, ((moveInFavour .long close entry).checkedMul size).bind (·.checkedMul contract) =
        some m ∧ m.val = r.money.val := by
  intro fill e later close size pip contract r
  have hs : Execution.sortByTime (e :: later) = [] ++ e :: later :=
    Execution.sortByTime_of_inTimeOrder (by unfold Execution.InTimeOrder; decide)
  obtain ⟨hmirror, hfirst, hexact⟩ := pnl_mirrored_first_entry_exact (e :: later) close size pip
    contract
  have hone := hfirst [] e later hs rfl (by simp) .long
  have hr : pnl .long (e :: later) close size pip contract = .ok r := by
    rw [hone]
    decide +kernel
  exact ⟨hmirror, hone, hr, hexact 4 (by decide) rfl .long r hr⟩

end Risk

end ForexJournal
