/-!
# Fixed-point decimals

A decimal is a sign, a mantissa below `2 ^ 96` and a scale from 0 to 28: it stands for
`± mantissa / 10 ^ scale`. The scale is part of the value's text, so `1.10` and `1.1` are
different decimals of equal value. The sign is a separate flag, so a negative zero exists;
only a few operations produce one, and the printer writes it with a minus sign.

Equality of structures is equality of representation. Order and equality of value go through
`Decimal.compare`, which aligns the two scales exactly.
-/

namespace ForexJournal

def mantissaBound : Nat := 79228162514264337593543950336

/-- The largest scale, that is the most digits after the point. -/
def maxScale : Nat := 28

/-- A decimal number `± mantissa / 10 ^ scale` with a 96-bit mantissa. -/
structure Decimal where
  negative : Bool
  mantissa : Nat
  scale : Nat
  mantissa_lt : mantissa < mantissaBound
  scale_le : scale ≤ maxScale

namespace Decimal

instance : DecidableEq Decimal := fun a b =>
  if h : a.negative = b.negative ∧ a.mantissa = b.mantissa ∧ a.scale = b.scale then
    isTrue (by cases a; cases b; simp_all)
  else
    isFalse (by intro e; subst e; exact h ⟨rfl, rfl, rfl⟩)

/-- Builds a decimal and keeps the sign flag as given, also on a zero mantissa. -/
def ofRawParts? (negative : Bool) (mantissa scale : Nat) : Option Decimal :=
  if h : mantissa < mantissaBound ∧ scale ≤ maxScale then
    some ⟨negative, mantissa, scale, h.1, h.2⟩
  else none

/-- Builds a decimal; a zero mantissa always gets the plus sign. -/
def ofParts? (negative : Bool) (mantissa scale : Nat) : Option Decimal :=
  ofRawParts? (negative && mantissa != 0) mantissa scale

def zero : Decimal := ⟨false, 0, 0, by decide, by decide⟩

def max : Decimal := ⟨false, 79228162514264337593543950335, 0, by decide, by decide⟩

/-- The nonnegative decimal `m / 10 ^ s`, for a mantissa and a scale that fit; zero
otherwise. The constants of the library are written this way. -/
def ofMantissa (m s : Nat) : Decimal :=
  if h : m < mantissaBound ∧ s ≤ maxScale then ⟨false, m, s, h.1, h.2⟩ else zero

/-- A natural number below the mantissa bound, at scale 0. -/
def ofNat? (n : Nat) : Option Decimal := ofParts? false n 0

/-- A small natural number (any count or percentage the program builds) at scale 0. -/
def ofSmallNat (n : Nat) : Decimal :=
  if h : n < mantissaBound then ⟨false, n, 0, h, by decide⟩ else zero

instance : Inhabited Decimal := ⟨zero⟩

def isZero (d : Decimal) : Bool := d.mantissa == 0

def signedMantissa (d : Decimal) : Int :=
  if d.negative then -(d.mantissa : Int) else d.mantissa

/-- The value scaled to `target` places, for any `target` at least the decimal's scale. -/
def scaledTo (d : Decimal) (target : Nat) : Int :=
  d.signedMantissa * Int.pow 10 (target - d.scale)

/-- Compares values exactly: both sides are brought to the larger scale. A zero of either
sign equals every other zero. -/
def compare (a b : Decimal) : Ordering :=
  let s := Nat.max a.scale b.scale
  Ord.compare (a.scaledTo s) (b.scaledTo s)

def sameValue (a b : Decimal) : Bool := compare a b == .eq

def lt (a b : Decimal) : Bool := compare a b == .lt

def le (a b : Decimal) : Bool := compare a b != .gt

def isPositive (d : Decimal) : Bool := !d.negative && d.mantissa != 0

def isNonPositive (d : Decimal) : Bool := !d.isPositive

def neg (d : Decimal) : Decimal := { d with negative := !d.negative }

def abs (d : Decimal) : Decimal := { d with negative := false }

/-- The larger value; on a tie the second, whose scale then shows in later sums. -/
def maxOf (a b : Decimal) : Decimal := if le a b then b else a

def minOf (a b : Decimal) : Decimal := if le a b then a else b

@[simp] theorem abs_negative (d : Decimal) : d.abs.negative = false := rfl

@[simp] theorem abs_mantissa (d : Decimal) : d.abs.mantissa = d.mantissa := rfl

@[simp] theorem neg_mantissa (d : Decimal) : d.neg.mantissa = d.mantissa := rfl

theorem ofParts?_mantissa {m s : Nat} {d : Decimal} {b : Bool}
    (h : ofParts? b m s = some d) : d.mantissa = m ∧ d.scale = s := by
  unfold ofParts? ofRawParts? at h
  split at h
  · cases h; exact ⟨rfl, rfl⟩
  · cases h

end Decimal

end ForexJournal
