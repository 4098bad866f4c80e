import ForexJournal.Decimal.Basic

/-!
# Decimal text

Writing keeps every place of the scale (`1.1050`, `0.20`) and puts a minus sign before any
decimal whose sign flag is set. Reading accepts an optional sign as the first character,
digits with `_` separators after the first digit, and one point. Past the 28th place, or at
a digit the mantissa cannot take, the next character decides a half-up rounding and what
follows it may only be digits and separators, which are not read; an integer part too wide
for the mantissa is an error.

An `e` or `E` starts an exponent: the text before it is read as above, and the exponent, an
unsigned number of at most 28 with an optional sign, moves the point (`shiftPoint`).
-/

namespace ForexJournal

namespace Decimal

/-- The decimal's text: the mantissa's digits with a point before the last `scale` of them,
padded with zeros on the left, and a minus sign when the sign flag is set. -/
def toText (d : Decimal) : String :=
  let digits := toString d.mantissa
  let body :=
    if d.scale = 0 then digits
    else if d.scale < digits.length then
      String.ofList (digits.toList.take (digits.length - d.scale)) ++ "." ++
        String.ofList (digits.toList.drop (digits.length - d.scale))
    else "0." ++ String.ofList (List.replicate (d.scale - digits.length) '0') ++ digits
  if d.negative then "-" ++ body else body

instance : ToString Decimal := ⟨toText⟩

/-- The message for a character that cannot stand where it stands. -/
def badCharacter (c : Char) : String :=
  if c = '.' then "Invalid decimal: two decimal points"
  else if c = '_' then "Invalid decimal: must start lead with a number"
  else "Invalid decimal: unknown character"

/-- Mantissas from this bound on, reached before the rounding position, are read by the wide
reader, which looks past a `_` standing at the rounding position. -/
def narrowBound : Nat := 1844674407370954906

/-- Checks what follows the rounding character: only digits and `_` separators may stand
there, and they are not read. -/
def checkTail : List Char → Except String Unit
  | [] => .ok ()
  | c :: rest => if c.isDigit ∨ c = '_' then checkTail rest else .error (badCharacter c)

/-- Ends reading at a rounding position: the character `c` after the last kept place rounds
the mantissa half up (a `_` counts as a zero digit), and the characters after it are checked
by `checkTail`. -/
def roundAtCharacter (negative : Bool) (m scale : Nat) (c : Char) (tail : List Char) :
    Except String Decimal :=
  let digit? : Option Nat :=
    if c.isDigit then some (c.toNat - '0'.toNat)
    else if c = '_' then some 0
    else none
  match digit? with
  | none => .error (badCharacter c)
  | some digit =>
    let (m, scale, ok) :=
      if digit < 5 then (m, scale, true)
      else if m + 1 < mantissaBound then (m + 1, scale, true)
      else if scale = 0 then (m, scale, false)
      else ((m + 1 + 4) / 10, scale - 1, true)
    if ok then do
      checkTail tail
      match ofParts? negative m scale with
      | some d => .ok d
      | none => .error "Invalid decimal: overflow from mantissa after rounding"
    else .error "Invalid decimal: overflow from mantissa after rounding"

/-- The end of the digits: the decimal read so far. -/
def finishDigits (negative seen : Bool) (m scale : Nat) : Except String Decimal :=
  if seen then
    match ofParts? negative m scale with
    | some d => .ok d
    | none => .error "Invalid decimal: overflow from too many digits"
  else .error "Invalid decimal: no digits found"

/-- Rounds at the last place a mantissa can hold, with `rest` the text after it. The wide
reader skips `_` separators to find the rounding character; the narrow one takes a `_` there
for a zero digit. -/
def roundAtPlace (negative wide : Bool) (m scale : Nat) (rest : List Char) :
    Except String Decimal :=
  let rest := if wide then rest.dropWhile (· = '_') else rest
  match rest with
  | [] => finishDigits negative true m scale
  | c :: tail => roundAtCharacter negative m scale c tail

/-- Reads the characters after the sign. `point` says a point was seen, `seen` that a digit
was seen and `wide` that the mantissa has reached `narrowBound`; `m` and `scale` are the
digits so far. -/
def readDigits (negative : Bool) : List Char → Bool → Bool → Bool → Nat → Nat →
    Except String Decimal
  | [], _, seen, _, m, scale => finishDigits negative seen m scale
  | c :: rest, point, seen, wide, m, scale =>
    if c.isDigit then
      let next := m * 10 + (c.toNat - '0'.toNat)
      if mantissaBound ≤ next then
        if point then roundAtCharacter negative m scale c rest
        else .error "Invalid decimal: overflow from too many digits"
      else
        let scale := if point then scale + 1 else scale
        match rest with
        | [] => finishDigits negative true next scale
        | _ :: _ =>
          if point ∧ maxScale ≤ scale then roundAtPlace negative wide next scale rest
          else readDigits negative rest point true (wide || decide (narrowBound ≤ next)) next scale
    else if c = '.' ∧ !point then readDigits negative rest true seen wide m scale
    else if c = '_' ∧ seen then readDigits negative rest point seen wide m scale
    else .error (badCharacter c)

/-- Reads a decimal written without an exponent. -/
def parsePlain : List Char → Except String Decimal
  | [] => .error "Invalid decimal: empty"
  | '-' :: rest => readDigits true rest false false false 0 0
  | '+' :: rest => readDigits false rest false false false 0 0
  | cs => readDigits false cs false false false 0 0

/-- The digits of a nonnegative exponent, read as an unsigned 32-bit number: an optional `+`,
then at least one digit. -/
def readExponent (cs : List Char) : Except String Nat :=
  let ds := match cs with
    | '+' :: rest => rest
    | _ => cs
  if ds.isEmpty ∨ !ds.all Char.isDigit then .error "Failed to parse"
  else
    let n := ds.foldl (fun n c => n * 10 + (c.toNat - '0'.toNat)) 0
    if n < 4294967296 then .ok n else .error "Failed to parse"

/-- Moves the point of `d` by an exponent of at most 28 places. A negative exponent raises
the scale, rounding half away from zero to 28 places when it goes past them; a positive one
lowers the scale and, past zero, multiplies the mantissa, which must still fit. -/
def shiftPoint (d : Decimal) (down : Bool) (n : Nat) : Except String Decimal :=
  if maxScale < n then .error ("Scale exceeds the maximum precision allowed: " ++ toString n ++
    " > " ++ toString maxScale)
  else if down then
    let s := d.scale + n
    let k := s - maxScale
    let m := if k = 0 then d.mantissa else (d.mantissa + 5 * Nat.pow 10 (k - 1)) / Nat.pow 10 k
    match ofRawParts? d.negative m (s - k) with
    | some r => .ok r
    | none => .error "Number exceeds maximum value that can be represented."
  else if n ≤ d.scale then
    match ofRawParts? d.negative d.mantissa (d.scale - n) with
    | some r => .ok r
    | none => .error "Number exceeds maximum value that can be represented."
  else
    match ofRawParts? d.negative (d.mantissa * Nat.pow 10 (n - d.scale)) 0 with
    | some r => .ok r
    | none => .error "Number exceeds maximum value that can be represented."

/-- Reads a decimal from its text (see the module note for the grammar). -/
def parse (s : String) : Except String Decimal :=
  match s.toList.span (fun c => c ≠ 'e' ∧ c ≠ 'E') with
  | (base, []) => parsePlain base
  | (base, _ :: exp) => do
    let d ← parsePlain base
    match exp with
    | '-' :: ds => shiftPoint d true (← readExponent ds)
    | ds => shiftPoint d false (← readExponent ds)

/-- Reads a decimal, forgetting the reason of a failure. -/
def parse? (s : String) : Option Decimal :=
  match parse s with
  | .ok d => some d
  | .error _ => none

end Decimal

end ForexJournal
