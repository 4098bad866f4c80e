/-!
# Binary64 numbers

The database keeps real numbers as IEEE 754 binary64 values. A value is held by its 64 bits,
so that stored values compare for identity; arithmetic goes through `Float`, whose operations
are those of binary64, while order and text are read off the exact value
`± significand * 2 ^ exponent` that the bits encode.

The text of a finite value has fifteen significant digits, rounded half up from the exact
value, with trailing zeros removed but at least one digit after the point. It is positional
when the decimal exponent lies in `-4 ..= 14`, and otherwise written `d.ddde±NN` with at least
two exponent digits. Zero of either sign is `0.0`; the infinities are `Inf` and `-Inf`.
-/

namespace ForexJournal

/-- A binary64 number, held by its bits. -/
structure Binary64 where
  bits : UInt64
  deriving DecidableEq, Repr, Inhabited

namespace Binary64

def ofFloat (f : Float) : Binary64 := ⟨f.toBits⟩

def toFloat (x : Binary64) : Float := Float.ofBits x.bits

def signBit (x : Binary64) : Bool := 9223372036854775808 ≤ x.bits.toNat

def exponentBits (x : Binary64) : Nat := x.bits.toNat / 4503599627370496 % 2048

def fractionBits (x : Binary64) : Nat := x.bits.toNat % 4503599627370496

/-- Not a number: all exponent bits set and a nonzero fraction. -/
def isNaN (x : Binary64) : Bool := x.exponentBits == 2047 && x.fractionBits != 0

/-- An infinity: all exponent bits set and a zero fraction. -/
def isInfinite (x : Binary64) : Bool := x.exponentBits == 2047 && x.fractionBits == 0

def isZero (x : Binary64) : Bool := x.exponentBits == 0 && x.fractionBits == 0

/-- The exact value of a finite number: a signed significand and a power of two. -/
def exact (x : Binary64) : Int × Int :=
  let e := x.exponentBits
  let m : Nat := if e = 0 then x.fractionBits else 4503599627370496 + x.fractionBits
  ((if x.signBit then -(m : Int) else m), if e = 0 then -1074 else (e : Int) - 1075)

def ofDecimal (negative : Bool) (m : Nat) (e : Int) : Binary64 :=
  let f := Float.ofScientific m (decide (e < 0)) e.natAbs
  ofFloat (if negative then -f else f)

def ofInt (n : Int) : Binary64 := ofFloat (Float.ofInt n)

def add (a b : Binary64) : Binary64 := ofFloat (a.toFloat + b.toFloat)

def sub (a b : Binary64) : Binary64 := ofFloat (a.toFloat - b.toFloat)

def mul (a b : Binary64) : Binary64 := ofFloat (a.toFloat * b.toFloat)

def div (a b : Binary64) : Binary64 := ofFloat (a.toFloat / b.toFloat)

def compareExact (a b : Int × Int) : Ordering :=
  let e := if a.2 ≤ b.2 then a.2 else b.2
  Ord.compare (a.1 * (Nat.pow 2 (a.2 - e).toNat : Nat)) (b.1 * (Nat.pow 2 (b.2 - e).toNat : Nat))

/-- Where a number lies on the number line with its two ends: `0` below every finite value,
`2` above them, and `1` with the exact value in between. -/
def place (x : Binary64) : Nat × (Int × Int) :=
  if x.isInfinite then (if x.signBit then (0, (0, 0)) else (2, (0, 0))) else (1, x.exact)

/-- Orders two numbers by value; the two zeros are equal. -/
def compare (a b : Binary64) : Ordering :=
  let (pa, va) := a.place
  let (pb, vb) := b.place
  if pa = 1 ∧ pb = 1 then compareExact va vb else Ord.compare pa pb

/-- Orders an integer against a number, exactly. -/
def compareInt (n : Int) (x : Binary64) : Ordering :=
  match x.place with
  | (1, v) => compareExact (n, 0) v
  | (p, _) => Ord.compare 1 p

/-- The integer a finite number equals, if it is whole. -/
def whole? (x : Binary64) : Option Int :=
  if x.isNaN || x.isInfinite then none
  else
    let (m, e) := x.exact
    if 0 ≤ e then some (m * (Nat.pow 2 e.toNat : Nat))
    else if m.natAbs % Nat.pow 2 e.natAbs = 0 then
      let q : Int := (m.natAbs / Nat.pow 2 e.natAbs : Nat)
      some (if m < 0 then -q else q)
    else none

/-- The integer a number stands for where a 64-bit integer is needed: the value cut toward
zero, and the nearest end of the 64-bit range for values at or beyond it. -/
def truncate (x : Binary64) : Int :=
  if compareInt (-9223372036854775808) x != .lt then -9223372036854775808
  else if compareInt 9223372036854775807 x != .gt then 9223372036854775807
  else
    let (m, e) := x.exact
    if 0 ≤ e then m * (Nat.pow 2 e.toNat : Nat)
    else
      let q : Int := (m.natAbs / Nat.pow 2 e.natAbs : Nat)
      if m < 0 then -q else q

/-- The number of decimal digits of a natural number (one for zero). -/
def digitCount (n : Nat) : Nat := (toString n).length

/-- The decimal exponent of the leading digit of `num / den`, both positive: the `t` with
`10 ^ t ≤ num / den < 10 ^ (t + 1)`. -/
def leadingExponent (num den : Nat) : Int :=
  let t : Int := (digitCount num : Int) - digitCount den
  let atLeast : Bool :=
    if 0 ≤ t then den * Nat.pow 10 t.toNat ≤ num else den ≤ num * Nat.pow 10 t.natAbs
  if atLeast then t else t - 1

/-- Fifteen significant digits of `num / den` (both positive), rounded half up, and the
decimal exponent of the first one. -/
def significant (num den : Nat) : List Nat × Int :=
  let top := leadingExponent num den
  let s : Int := 14 - top
  let (n, d) := if 0 ≤ s then (num * Nat.pow 10 s.toNat, den) else (num, den * Nat.pow 10 s.natAbs)
  let q := n / d
  let q := if d ≤ 2 * (n % d) then q + 1 else q
  let (q, top) := if q = 1000000000000000 then (100000000000000, top + 1) else (q, top)
  ((toString q).toList.map fun c => c.toNat - 48, top)

def exponentText (e : Nat) : String :=
  if e < 10 then "0" ++ toString e else toString e

/-- Lays out significant digits whose first one has decimal exponent `top`: trailing zeros
dropped, at least one digit after the point, with an exponent outside `-4 ..= 14`. -/
def layout (ds : List Nat) (top : Int) : String :=
  let ds := (ds.reverse.dropWhile (· == 0)).reverse
  let digit (d : Nat) : Char := Char.ofNat (48 + d)
  if top < -4 || top > 14 then
    let rest := ds.drop 1
    String.ofList [digit (ds.headD 0)] ++ "." ++
      (if rest.isEmpty then "0" else String.ofList (rest.map digit)) ++ "e" ++
      (if top < 0 then "-" else "+") ++ exponentText top.natAbs
  else if 0 ≤ top then
    let w := top.toNat + 1
    let intPart := (ds.take w).map digit ++ List.replicate (w - ds.length) '0'
    let frac := (ds.drop w).map digit
    String.ofList intPart ++ "." ++ (if frac.isEmpty then "0" else String.ofList frac)
  else "0." ++ String.ofList (List.replicate (top.natAbs - 1) '0' ++ ds.map digit)

/-- The text of a number (see the module note). -/
def text (x : Binary64) : String :=
  if x.isNaN then "NaN"
  else if x.isInfinite then (if x.signBit then "-Inf" else "Inf")
  else if x.isZero then "0.0"
  else
    let (m, e) := x.exact
    let (num, den) : Nat × Nat :=
      if 0 ≤ e then (m.natAbs * Nat.pow 2 e.toNat, 1) else (m.natAbs, Nat.pow 2 e.natAbs)
    let (ds, top) := significant num den
    (if m < 0 then "-" else "") ++ layout ds top

end Binary64

end ForexJournal
