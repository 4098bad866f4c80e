import ForexJournal.Decimal.Arith

/-!
# Exponential moving average

With `k = 2 / (n + 1)` for a period `n`, the average is seeded with the plain mean of the
first `n` closes and then follows `ema ← ema + (close - ema) * k`. Nothing is reported
before the `n`-th close. The seed is kept as a running mean, each close moving it by
`(close - mean) / count`, so that every intermediate value stays between the smallest and
the largest close seen.

A period of 0 is taken as 1.
-/

namespace ForexJournal

def emaPlaces : Nat := 8

/-- The state of an exponential moving average fed one close at a time. -/
structure Ema where
  period : Nat
  k : Decimal
  seen : Nat
  seedMean : Decimal
  value : Option Decimal
  deriving Inhabited

namespace Ema

/-- A fresh average of the given period (at least 1), for a period whose successor is counted
without wrapping (see `create`). -/
def new (period : Nat) : Ema :=
  let p := Nat.max period 1
  ⟨p, (Decimal.ofSmallNat 2).div (Decimal.ofSmallNat (p + 1)), 0, Decimal.zero, none⟩

/-- Counts are 64-bit words: `period + 1` is taken modulo this. -/
def wordModulus : Nat := 18446744073709551616

/-- A fresh average as the program creates it: `k = 2 / (period + 1)` with the sum taken in 64
bits. At the largest period the sum wraps to 0, and the division by zero stops the program. -/
def create (period : Nat) : Except Fault Ema := do
  let p := Nat.max period 1
  let k ← (Decimal.ofSmallNat 2).tryDiv (Decimal.ofSmallNat ((p + 1) % wordModulus))
  return ⟨p, k, 0, Decimal.zero, none⟩

/-- Feeds the next close; a difference, product or sum that does not fit stops the program. -/
def step (e : Ema) (close : Decimal) : Except Fault Ema := do
  let seen := e.seen + 1
  match e.value with
  | some prev =>
    let moved ← (← (← close.trySub prev).tryMul e.k) |> prev.tryAdd
    return { e with seen, value := some moved }
  | none =>
    let mean ← (← (← close.trySub e.seedMean).tryDiv (Decimal.ofSmallNat seen)) |>
      e.seedMean.tryAdd
    return { e with seen, seedMean := mean, value := if seen = e.period then some mean else none }

/-- Feeds the closes in order, giving the average as of each close and the final state. -/
def run (e : Ema) : List Decimal → Except Fault (List (Option Decimal) × Ema)
  | [] => .ok ([], e)
  | c :: cs => do
    let e' ← e.step c
    let (vs, last) ← e'.run cs
    return (e'.value :: vs, last)

def series (closes : List Decimal) (period : Nat) : Except Fault (List (Option Decimal)) := do
  let e ← create period
  (·.1) <$> e.run closes

/-- A run that finishes gives one value per close. -/
theorem run_length (e : Ema) (cs : List Decimal) (vs : List (Option Decimal)) (last : Ema)
    (h : e.run cs = .ok (vs, last)) : vs.length = cs.length := by
  induction cs generalizing e vs last with
  | nil => simp [run] at h; simp [← h.1]
  | cons c cs ih =>
    simp only [run, bind, Except.bind] at h
    split at h
    · simp at h
    · rename_i e' _
      split at h
      · simp at h
      · rename_i p hp
        obtain ⟨vs', last'⟩ := p
        simp [pure, Except.pure] at h
        simp [← h.1, ih e' vs' last' hp]

end Ema

end ForexJournal
