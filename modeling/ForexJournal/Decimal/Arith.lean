import ForexJournal.Decimal.Basic

/-!
# Decimal arithmetic

Sums, differences and products are exact while they fit; otherwise the fewest trailing digits
are dropped, the last one rounded half to even, and a result that needs a negative scale is an
overflow (`none`). Quotients are developed digit group by digit group, nine places at a time,
until the remainder is zero, the scale reaches 28 or the next group would overflow the
mantissa; then the quotient is rounded half to even and a few trailing zeros are removed
(see `Decimal.trimZeros`).

Some shortcuts are part of the behaviour: a zero operand of a sum comes back unchanged, sign
flag and scale included, and a zero factor or dividend gives zero at scale 0. Any other sum that
comes to zero is a plain zero. A product of two mantissas below `2 ^ 32` that rounds to zero is
a plain zero too, while a wider product that rounds to zero keeps the sign of the exact product.

Where the program computes without a check, a result that does not fit stops it; `Fault` names
the operation that stopped it.
-/

namespace ForexJournal

/-- `n / d` rounded to the nearest integer, a tie going to the even neighbour. -/
def roundHalfEven (n d : Nat) : Nat :=
  let q := n / d
  let r := n % d
  if 2 * r > d ∨ (2 * r = d ∧ q % 2 = 1) then q + 1 else q

/-- Drops the fewest trailing digits, at least `least` of them, so that the rounded mantissa
fits; gives the new mantissa and scale, or `none` if that would need more than `scale`
digits. -/
def fitDigits (m scale least : Nat) : Option (Nat × Nat) :=
  ((List.range (scale + 1)).filter (least ≤ ·)).findSome? fun k =>
    let r := roundHalfEven m (Nat.pow 10 k)
    if r < mantissaBound then some (r, scale - k) else none

theorem roundHalfEven_one (n : Nat) : roundHalfEven n 1 = n := by
  simp [roundHalfEven, Nat.mod_one]

/-- An operation done without a check whose result does not fit; it stops the program. -/
inductive Fault where
  | addition
  | subtraction
  | multiplication
  | division
  | divisionByZero
  deriving DecidableEq, Repr

/-- The message the program stops with. -/
def Fault.message : Fault → String
  | .addition => "Addition overflowed"
  | .subtraction => "Subtraction overflowed"
  | .multiplication => "Multiplication overflowed"
  | .division => "Division overflowed"
  | .divisionByZero => "Division by zero"

namespace Decimal

/-- A signed exact result at a scale, fitted into a decimal by dropping digits. -/
def ofSignedExact? (v : Int) (scale least : Nat) : Option Decimal := do
  let (m, s) ← fitDigits v.natAbs scale least
  ofParts? (decide (v < 0)) m s

/-- The general sum: both sides at the larger scale, exact, then fitted. -/
def exactSum (a b : Decimal) (subtract : Bool) : Option Decimal :=
  let s := Nat.max a.scale b.scale
  let bv := if subtract then -(b.scaledTo s) else b.scaledTo s
  ofSignedExact? (a.scaledTo s + bv) s 0

/-- Adds (or, with `subtract`, subtracts) two decimals. -/
def addSub (a b : Decimal) (subtract : Bool) : Option Decimal :=
  if a.isZero then
    if subtract && !b.isZero then some b.neg else some b
  else if b.isZero then some a
  else exactSum a b subtract

def checkedAdd (a b : Decimal) : Option Decimal := addSub a b false

def checkedSub (a b : Decimal) : Option Decimal := addSub a b true

/-- The product, or `none` on overflow. Digits past the 28th place are rounded away. -/
def checkedMul (a b : Decimal) : Option Decimal :=
  if a.isZero || b.isZero then some zero
  else
    let s := a.scale + b.scale
    let small : Nat := 4294967296
    let v : Int := a.signedMantissa * b.signedMantissa
    if a.mantissa < small ∧ b.mantissa < small then
      if 47 < s then some zero else ofSignedExact? v s (s - maxScale)
    else do
      let (m, s') ← fitDigits v.natAbs s (s - maxScale)
      ofRawParts? (a.negative != b.negative) m s'

/-- The largest power of ten, at most `9` and at most `28 - scale` past scale 19, that the
quotient can be multiplied by without overflow. Nine places are taken whenever they fit, even at
a scale that stays negative; a smaller step that leaves the scale negative is an overflow
(`none`). -/
def quotientStep (q : Nat) (scale : Int) : Option Nat :=
  let cap : Nat := if 19 < scale then (28 - scale).toNat else 9
  let p := ((List.range (cap + 1)).filter fun p => q * Nat.pow 10 p < mantissaBound).foldl
    Nat.max 0
  if p = 9 then some 9
  else if (p : Int) + scale < 0 then none else some p

/-- One digit less after an overflow of the quotient: divides by ten, rounding half to even,
where `sticky` says that nonzero digits were already lost. -/
def dropOverflowDigit (q : Nat) (scale : Int) (sticky : Bool) : Option (Nat × Int) :=
  if scale - 1 < 0 then none
  else
    let q' := q / 10
    let r := q % 10
    let up := 5 < r ∨ (r = 5 ∧ (sticky ∨ q' % 2 = 1))
    some (if up then q' + 1 else q', scale - 1)

/-- Removes trailing zeros in the quotient's final form: groups of eight while the low 32 bits
of the mantissa are zero, then at most one group each of four, two and one. -/
def trimZeros (q scale : Nat) : Nat × Nat :=
  let rec eights (q scale : Nat) (fuel : Nat) : Nat × Nat :=
    match fuel with
    | 0 => (q, scale)
    | fuel + 1 =>
      if q % 4294967296 = 0 ∧ 8 ≤ scale ∧ q % 100000000 = 0 then
        eights (q / 100000000) (scale - 8) fuel
      else (q, scale)
  let (q, s) := eights q scale (scale / 8)
  let (q, s) := if q % 10000 = 0 ∧ 4 ≤ s then (q / 10000, s - 4) else (q, s)
  let (q, s) := if q % 100 = 0 ∧ 2 ≤ s then (q / 100, s - 2) else (q, s)
  if q % 10 = 0 ∧ 1 ≤ s then (q / 10, s - 1) else (q, s)

/-- The result of developing a quotient: mantissa, scale, and whether a remainder was met. -/
structure Quotient where
  mantissa : Nat
  scale : Int
  inexact : Bool

/-- Rounds the quotient `q` with remainder `r` of a division by `b`, half to even. -/
def roundQuotient (q r b : Nat) (scale : Int) : Option Quotient :=
  if 2 * r > b ∨ (2 * r = b ∧ q % 2 = 1) then
    if q + 1 < mantissaBound then some ⟨q + 1, scale, true⟩
    else (dropOverflowDigit (q + 1) scale true).map fun (m, s) => ⟨m, s, true⟩
  else some ⟨q, scale, true⟩

/-- What one round of developing a quotient does next. -/
inductive QuotientMove where
  /-- stop with this result (`none` is an overflow) -/
  | finish (result : Option Quotient)
  /-- bring this many more places into the quotient -/
  | widen (places : Nat) (inexact : Bool)

/-- The next move for quotient digits `q` at `scale` with remainder `r` of a division by `b`:
stop when the remainder is zero at a scale of at least 0, round at scale 28 or when no
place fits, and otherwise widen by as many places as fit. -/
def quotientMove (b q r : Nat) (scale : Int) (inexact : Bool) : QuotientMove :=
  if r = 0 then
    if 0 ≤ scale then .finish (some ⟨q, scale, inexact⟩)
    else .widen (Nat.min 9 (-scale).toNat) inexact
  else if scale = 28 then .finish (roundQuotient q r b scale)
  else
    match quotientStep q scale with
    | none => .finish none
    | some 0 => .finish (roundQuotient q r b scale)
    | some p => .widen p true

/-- Develops the quotient of a division by `b`: `q` digits so far at `scale`, remainder `r`.
Each round adds at least one place and the scale never passes 28. -/
def develop (b q r : Nat) (scale : Int) (inexact : Bool) : Option Quotient :=
  match quotientMove b q r scale inexact with
  | .finish result => result
  | .widen p inexact' =>
    if _hp : p = 0 ∨ 28 < scale + p then none
    else
      let q1 := q * Nat.pow 10 p
      if mantissaBound ≤ q1 then none
      else
        let r1 := r * Nat.pow 10 p
        let q2 := q1 + r1 / b
        let r2 := r1 % b
        if mantissaBound ≤ q2 then
          (dropOverflowDigit q2 (scale + p) (r2 != 0)).map fun (m, s) => ⟨m, s, true⟩
        else develop b q2 r2 (scale + p) inexact'
termination_by (29 - scale).toNat
decreasing_by omega

/-- The quotient, or `none` when the divisor is zero or the quotient overflows. A zero
dividend gives zero at scale 0. -/
def checkedDiv (a b : Decimal) : Option Decimal :=
  if b.isZero then none
  else if a.isZero then some zero
  else
    let scale : Int := (a.scale : Int) - b.scale
    match develop b.mantissa (a.mantissa / b.mantissa) (a.mantissa % b.mantissa) scale false with
    | none => none
    | some ⟨q, s, inexact⟩ =>
      let (q, s) := if inexact then trimZeros q s.toNat else (q, s.toNat)
      ofParts? (a.negative != b.negative) q s

/-- How digits past the kept places are treated. -/
inductive Rounding where
  /-- to the nearest, a tie to the even neighbour -/
  | halfEven
  /-- dropped -/
  | towardZero
  deriving DecidableEq, Repr

/-- Keeps at most `dp` places. A decimal with no more places comes back unchanged, and a zero
with more places becomes a zero with `dp` places and the same sign flag. -/
def roundTo (d : Decimal) (dp : Nat) (mode : Rounding) : Decimal :=
  if d.scale ≤ dp then d
  else if d.isZero then (ofRawParts? d.negative 0 dp).getD d
  else
    let p := Nat.pow 10 (d.scale - dp)
    let m := match mode with
      | .halfEven => roundHalfEven d.mantissa p
      | .towardZero => d.mantissa / p
    (ofParts? d.negative m dp).getD d

def roundDp (d : Decimal) (dp : Nat) : Decimal := d.roundTo dp .halfEven

/-- The sum where the program adds without a check; no such sum overflows on the inputs the
program accepts, and an overflow would give zero. -/
def add (a b : Decimal) : Decimal := (checkedAdd a b).getD zero

/-- The difference where the program subtracts without a check (see `add`). -/
def sub (a b : Decimal) : Decimal := (checkedSub a b).getD zero

/-- The product where the program multiplies without a check (see `add`). -/
def mul (a b : Decimal) : Decimal := (checkedMul a b).getD zero

/-- The quotient where the program divides without a check (see `add`). -/
def div (a b : Decimal) : Decimal := (checkedDiv a b).getD zero

/-- The sum where the program adds without a check and an overflow stops it. -/
def tryAdd (a b : Decimal) : Except Fault Decimal :=
  match checkedAdd a b with
  | some d => .ok d
  | none => .error .addition

/-- The difference where an overflow stops the program (see `tryAdd`). -/
def trySub (a b : Decimal) : Except Fault Decimal :=
  match checkedSub a b with
  | some d => .ok d
  | none => .error .subtraction

/-- The product where an overflow stops the program (see `tryAdd`). -/
def tryMul (a b : Decimal) : Except Fault Decimal :=
  match checkedMul a b with
  | some d => .ok d
  | none => .error .multiplication

/-- The quotient where an overflow or a zero divisor stops the program (see `tryAdd`). -/
def tryDiv (a b : Decimal) : Except Fault Decimal :=
  if b.isZero then .error .divisionByZero
  else
    match checkedDiv a b with
    | some d => .ok d
    | none => .error .division

end Decimal

end ForexJournal
