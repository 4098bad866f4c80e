import ForexJournal.Database.Binary64

/-!
# Stored values

A stored value is null, a 64-bit integer, a binary64 real or a text.

Texts become numbers in two ways. Where a column prefers numbers, a text that is a number and
nothing else (blanks around it allowed) is stored as that number (`numericText?`). Arithmetic
reads any text as the number its longest numeric prefix stands for (`toNumber`): an integer
when that prefix is a whole number that fits, otherwise a real, and zero when there is none.

Values are ordered as the database orders them: null first, then numbers by exact value, then
texts by their bytes. Texts in UTF-8 compare like their code points, so `String` order is that
byte order.
-/

namespace ForexJournal

/-- A value in a table cell. -/
inductive SqlValue where
  | null
  | integer (n : Int)
  | real (x : Binary64)
  | text (s : String)
  deriving DecidableEq, Repr, Inhabited

/-- The declared type preference of a column. -/
inductive Affinity where
  | text
  | integer
  deriving DecidableEq, Repr

namespace SqlValue

/-- The name of the value's storage type, as error messages write it. -/
def typeName : SqlValue → String
  | .null => "Null"
  | .integer _ => "Integer"
  | .real _ => "Real"
  | .text _ => "Text"

def int64Min : Int := -9223372036854775808

def int64Max : Int := 9223372036854775807

def fitsInt64 (n : Int) : Bool := decide (int64Min ≤ n ∧ n ≤ int64Max)

/-- Reads an integer literal: optional sign, then digits. -/
def integerText? (s : String) : Option Int :=
  let (neg, digits) := match s.toList with
    | '-' :: rest => (true, rest)
    | '+' :: rest => (false, rest)
    | cs => (false, cs)
  if digits.isEmpty || !digits.all Char.isDigit then none
  else
    let n := digits.foldl (fun (acc : Nat) c => acc * 10 + (c.toNat - 48)) 0
    let v : Int := if neg then -(n : Int) else n
    if fitsInt64 v then some v else none

/-- The digits of a literal `d…d[.d…d][e[±]d…d]` as a number and the power of ten it is
scaled by: the literal is `m * 10 ^ e`. -/
def literalParts? (s : String) : Option (List Nat × Int) :=
  let cs := s.toList
  let whole := cs.takeWhile Char.isDigit
  let rest := cs.drop whole.length
  let (frac, rest) := match rest with
    | '.' :: r => (r.takeWhile Char.isDigit, r.dropWhile Char.isDigit)
    | r => ([], r)
  let expo? : Option Int := match rest with
    | [] => some 0
    | e :: r =>
      if e != 'e' && e != 'E' then none
      else
        let (neg, ds) := match r with
          | '-' :: d => (true, d)
          | '+' :: d => (false, d)
          | d => (false, d)
        if ds.isEmpty || !ds.all Char.isDigit then none
        else
          let n : Int := ds.foldl (fun acc c => acc * 10 + (c.toNat - 48)) 0
          some (if neg then -n else n)
  if whole.isEmpty && frac.isEmpty then none
  else expo?.map fun e => ((whole ++ frac).map fun c => c.toNat - 48, e - frac.length)

def digitsValue (ds : List Nat) : Nat := ds.foldl (fun acc d => acc * 10 + d) 0

/-- The real a numeric literal stands for. -/
def realLiteral (s : String) : Binary64 :=
  match literalParts? s with
  | some (ds, e) => Binary64.ofDecimal false (digitsValue ds) e
  | none => Binary64.ofInt 0

/-- The blanks the database skips around a number in a text: space, tab, line feed, vertical
tab, form feed and carriage return. -/
def isSpace (c : Char) : Bool :=
  c == ' ' || c == '\t' || c == '\n' || c == '\x0b' || c == '\x0c' || c == '\r'

/-- The longest numeric prefix of a text, after blanks: an optional sign, digits, an optional
point with digits, and an exponent when digits follow its mark. -/
structure NumberPrefix where
  negative : Bool
  /-- the digits before and after the point -/
  digits : List Nat
  /-- the power of ten the digits are scaled by -/
  exponent : Int
  /-- a point or an exponent was read -/
  fractional : Bool
  /-- only blanks follow the prefix -/
  complete : Bool

/-- Reads the numeric prefix of a text (see `NumberPrefix`). -/
def numberPrefix (s : String) : NumberPrefix :=
  let cs := s.toList.dropWhile isSpace
  let (negative, cs) := match cs with
    | '-' :: rest => (true, rest)
    | '+' :: rest => (false, rest)
    | cs => (false, cs)
  let whole := cs.takeWhile Char.isDigit
  let cs := cs.drop whole.length
  let (pointed, frac, cs) := match cs with
    | '.' :: r => (true, r.takeWhile Char.isDigit, r.dropWhile Char.isDigit)
    | r => (false, [], r)
  let (expo, cs) : Option Int × List Char := match cs with
    | e :: r =>
      if e == 'e' || e == 'E' then
        let (eneg, ds) := match r with
          | '-' :: d => (true, d)
          | '+' :: d => (false, d)
          | d => (false, d)
        let es := ds.takeWhile Char.isDigit
        if es.isEmpty then (none, e :: r)
        else
          let n : Int := (digitsValue (es.map fun c => c.toNat - 48) : Nat)
          (some (if eneg then -n else n), ds.drop es.length)
      else (none, e :: r)
    | [] => (none, [])
  let digits := (whole ++ frac).map fun c => c.toNat - 48
  { negative, digits, exponent := expo.getD 0 - frac.length,
    fractional := pointed || expo.isSome, complete := cs.all isSpace }

/-- The real value of a numeric prefix; zero when it has no digits. -/
def NumberPrefix.real (p : NumberPrefix) : Binary64 :=
  Binary64.ofDecimal p.negative (digitsValue p.digits) p.exponent

/-- How a text reads as a 64-bit integer: the value of its leading integer (blanks and a sign
allowed before it), cut to the 64-bit range, and whether the text is that integer and nothing
else, or has more after it, or holds no digits, or overflows. -/
inductive IntegerReading where
  | exact (n : Int)
  | trailing (n : Int)
  | noDigits
  | overflow (n : Int)

/-- Reads the leading integer of a text (see `IntegerReading`). -/
def integerPrefix (s : String) : IntegerReading :=
  let cs := s.toList.dropWhile isSpace
  let (negative, cs) := match cs with
    | '-' :: rest => (true, rest)
    | '+' :: rest => (false, rest)
    | cs => (false, cs)
  let ds := cs.takeWhile Char.isDigit
  let rest := cs.drop ds.length
  let n : Nat := digitsValue (ds.map fun c => c.toNat - 48)
  let v : Int := if negative then -(n : Int) else n
  if ds.isEmpty then .noDigits
  else if !fitsInt64 v then .overflow (if negative then int64Min else int64Max)
  else if rest.all isSpace then .exact v
  else .trailing v

/-- The number a value stands for in arithmetic: integers and reals as they are; a text as
the number of its numeric prefix, an integer when that prefix is a whole number written
without point or exponent that fits in 64 bits (zero when there are no digits), a real
otherwise; null stands for no number. -/
def toNumber : SqlValue → Option SqlValue
  | .null => none
  | .integer n => some (.integer n)
  | .real x => some (.real x)
  | .text s =>
    let p := numberPrefix s
    let asInteger : Option Int := match integerPrefix s with
      | .exact n | .trailing n => some n
      | .noDigits => some 0
      | .overflow _ => none
    if p.digits.isEmpty then some (.integer 0)
    else if p.fractional then some (.real p.real)
    else match asInteger with
      | some n => some (.integer n)
      | none => some (.real p.real)

/-- The real a value stands for where a real is needed; zero for null. -/
def realValue (v : SqlValue) : Binary64 :=
  match v with
  | .null => Binary64.ofInt 0
  | .integer n => Binary64.ofInt n
  | .real x => x
  | .text s => (numberPrefix s).real

/-- The integer a value stands for where an integer is needed; zero for null. -/
def integerValue (v : SqlValue) : Int :=
  match v with
  | .null => 0
  | .integer n => n
  | .real x => x.truncate
  | .text s => match integerPrefix s with
    | .exact n | .trailing n | .overflow n => n
    | .noDigits => 0

/-- A real as an integer where integers are preferred: when it is whole and lies strictly
inside the 64-bit range. -/
def ofReal (x : Binary64) : SqlValue :=
  match x.whole? with
  | some n => if int64Min < n ∧ n < int64Max then .integer n else .real x
  | none => .real x

/-- The number a text stands for where numbers are preferred: blanks around it, an optional
sign, then an integer or a real literal. An integer that fits in 64 bits stays an integer;
any other number is a real, kept as an integer when it is whole (see `ofReal`). Other texts
stand for no number. -/
def numericText? (s : String) : Option SqlValue :=
  let p := numberPrefix s
  if p.digits.isEmpty || !p.complete then none
  else if !p.fractional then
    match integerPrefix s with
    | .exact n => some (.integer n)
    | _ => some (ofReal p.real)
  else some (ofReal p.real)

/-- The text form of a value, as the database converts it for a text column. -/
def asText : SqlValue → Option String
  | .null => none
  | .integer n => some (toString n)
  | .real x => some x.text
  | .text s => some s

/-- Applies a column's affinity to a value being stored: numbers become text in a text
column; in an integer column a whole real becomes an integer (see `ofReal`) and a text that
stands for a number (see `numericText?`) becomes that number. -/
def withAffinity (a : Affinity) (v : SqlValue) : SqlValue :=
  match a, v with
  | .text, .integer n => .text (toString n)
  | .text, .real x => .text x.text
  | .integer, .real x => ofReal x
  | .integer, .text s => (numericText? s).getD (.text s)
  | _, v => v

/-- The rank of a value's type in the ordering. -/
def rank : SqlValue → Nat
  | .null => 0
  | .integer _ => 1
  | .real _ => 1
  | .text _ => 2

/-- Compares two values in the database's order: numbers by exact value, texts by bytes. -/
def compare (a b : SqlValue) : Ordering :=
  match a, b with
  | .text x, .text y => Ord.compare x y
  | .integer x, .integer y => Ord.compare x y
  | .integer x, .real y => Binary64.compareInt x y
  | .real x, .integer y => (Binary64.compareInt y x).swap
  | .real x, .real y => Binary64.compare x y
  | _, _ => Ord.compare a.rank b.rank

/-- Equal in the database's sense; nulls are equal to nothing. -/
def sqlEq (a b : SqlValue) : Bool :=
  a != .null && b != .null && compare a b == .eq

def suffixes {α : Type} : List α → List (List α)
  | [] => [[]]
  | a :: as => (a :: as) :: suffixes as

/-- The rests of the texts `rests` after matching the pattern: `%` matches any run of
characters, `_` any one character, and ASCII letters match either case. -/
def likeRests : List Char → List (List Char) → List (List Char)
  | [], rests => rests
  | '%' :: ps, rests => likeRests ps (rests.flatMap suffixes)
  | '_' :: ps, rests => likeRests ps (rests.filterMap List.tail?)
  | p :: ps, rests =>
    likeRests ps (rests.filterMap fun
      | c :: r => if p.toLower == c.toLower then some r else none
      | [] => none)

def like (text pattern : String) : Bool :=
  (likeRests pattern.toList [text.toList]).any List.isEmpty

end SqlValue

end ForexJournal
