import ForexJournal.Text.Blank

/-!
# Instants and civil time

An instant is a count of seconds from 1970-01-01T00:00:00Z with nanoseconds, on the proleptic
Gregorian calendar in UTC. A leap second is the instant of the second before it with a
nanosecond count of 10^9 or more: it sorts after every instant of that second and before the
next one, and it is written as second 60.

Three texts are written: the interchange form (`2024-01-02T10:00:00Z`, with 3, 6 or 9 fraction
digits when the fraction is not zero), the stored form (always 6 fraction digits, so that text
order is time order), and the message form (`2024-01-02 10:00:00.123456 UTC`).
-/

namespace ForexJournal

/-- A point in time: seconds since the Unix epoch and the nanoseconds within that second; a
count of 10^9 or more marks the leap second that follows it. -/
structure Instant where
  seconds : Int
  nanos : Nat
  nanos_lt : nanos < 2000000000

namespace Instant

instance : DecidableEq Instant := fun a b =>
  if h : a.seconds = b.seconds ∧ a.nanos = b.nanos then
    isTrue (by cases a; cases b; simp_all)
  else
    isFalse (by intro e; subst e; exact h ⟨rfl, rfl⟩)

def epoch : Instant := ⟨0, 0, by decide⟩

instance : Inhabited Instant := ⟨epoch⟩

/-- Time order: by seconds, then nanoseconds. -/
def compare (a b : Instant) : Ordering :=
  match Ord.compare a.seconds b.seconds with
  | .eq => Ord.compare a.nanos b.nanos
  | o => o

def lt (a b : Instant) : Bool := compare a b == .lt

def le (a b : Instant) : Bool := compare a b != .gt

/-- The same instant with the nanoseconds cut to whole microseconds. -/
def truncMicros (t : Instant) : Instant :=
  ⟨t.seconds, t.nanos / 1000 * 1000, by have := t.nanos_lt; omega⟩

def addSeconds (t : Instant) (s : Int) : Instant := { t with seconds := t.seconds + s }

end Instant

/-- A calendar date and a time of day, as written in UTC. -/
structure CivilTime where
  year : Int
  month : Nat
  day : Nat
  hour : Nat
  minute : Nat
  second : Nat
  nanos : Nat

/-- Days from 1970-01-01 to the given proleptic Gregorian date. -/
def daysFromCivil (year : Int) (month day : Nat) : Int :=
  let y := if month ≤ 2 then year - 1 else year
  let era := y / 400
  let yoe := y - era * 400
  let mp : Nat := if month > 2 then month - 3 else month + 9
  let doy : Int := ((153 * mp + 2) / 5 + day - 1 : Nat)
  let doe := yoe * 365 + yoe / 4 - yoe / 100 + doy
  era * 146097 + doe - 719468

/-- The proleptic Gregorian date of a day count from 1970-01-01. -/
def civilFromDays (days : Int) : Int × Nat × Nat :=
  let z := days + 719468
  let era := z / 146097
  let doe := z - era * 146097
  let yoe := (doe - doe / 1460 + doe / 36524 - doe / 146096) / 365
  let y := yoe + era * 400
  let doy := doe - (365 * yoe + yoe / 4 - yoe / 100)
  let mp := (5 * doy + 2) / 153
  let d := doy - (153 * mp + 2) / 5 + 1
  let m := if mp < 10 then mp + 3 else mp - 9
  (if m ≤ 2 then y + 1 else y, m.toNat, d.toNat)

def isLeapYear (y : Int) : Bool := (y % 4 == 0 && y % 100 != 0) || y % 400 == 0

/-- The number of days in a month of a year. -/
def daysInMonth (y : Int) (m : Nat) : Nat :=
  if m = 2 then (if isLeapYear y then 29 else 28)
  else if m = 4 ∨ m = 6 ∨ m = 9 ∨ m = 11 then 30
  else 31

namespace Instant

/-- The UTC calendar date and time of day of an instant; a leap second is second 60. -/
def civil (t : Instant) : CivilTime :=
  let days := t.seconds / 86400
  let secs := (t.seconds % 86400).toNat
  let (y, m, d) := civilFromDays days
  let leap := if 1000000000 ≤ t.nanos then 1 else 0
  ⟨y, m, d, secs / 3600, secs % 3600 / 60, secs % 60 + leap, t.nanos % 1000000000⟩

def weekday (t : Instant) : Nat := ((t.seconds / 86400 + 3) % 7).toNat

/-- The instant of a UTC date and time, seconds and nanoseconds included. -/
def ofCivil (year : Int) (month day hour minute second : Nat) (nanos : Nat)
    (h : nanos < 2000000000) : Instant :=
  ⟨daysFromCivil year month day * 86400 + (hour * 3600 + minute * 60 + second : Nat), nanos, h⟩

/-- The instant of a UTC date and a time of day whose second may be 60, the leap second
after second 59; `nanos` is below 10^9. -/
def ofCivilLeap (year : Int) (month day hour minute second : Nat) (nanos : Nat)
    (h : nanos < 1000000000) : Instant :=
  if second = 60 then ofCivil year month day hour minute 59 (nanos + 1000000000) (by omega)
  else ofCivil year month day hour minute second nanos (by omega)

end Instant

/-- Zero-padded decimal digits of a natural number, at least `width` of them. -/
def padNat (n width : Nat) : String :=
  let s := toString n
  String.ofList (List.replicate (width - s.length) '0') ++ s

/-- A year as written in dates: four digits from 0 to 9999, else a sign and at least four. -/
def yearText (y : Int) : String :=
  if 0 ≤ y ∧ y ≤ 9999 then padNat y.toNat 4
  else (if y < 0 then "-" else "+") ++ padNat y.natAbs 4

/-- The fraction of a second in the shortest of 3, 6 or 9 digits, empty when zero. -/
def fractionText (nanos : Nat) : String :=
  if nanos = 0 then ""
  else if nanos % 1000000 = 0 then "." ++ padNat (nanos / 1000000) 3
  else if nanos % 1000 = 0 then "." ++ padNat (nanos / 1000) 6
  else "." ++ padNat nanos 9

namespace CivilTime

def dateText (c : CivilTime) : String :=
  yearText c.year ++ "-" ++ padNat c.month 2 ++ "-" ++ padNat c.day 2

def clockText (c : CivilTime) : String :=
  padNat c.hour 2 ++ ":" ++ padNat c.minute 2 ++ ":" ++ padNat c.second 2

end CivilTime

namespace Instant

/-- The interchange text: date, `T`, time, the shortest exact fraction, and `Z`. -/
def toText (t : Instant) : String :=
  let c := t.civil
  c.dateText ++ "T" ++ c.clockText ++ fractionText c.nanos ++ "Z"

/-- The stored text: like the interchange text but always with six fraction digits, so
that texts of one width compare in time order. -/
def toStoredText (t : Instant) : String :=
  let c := t.civil
  c.dateText ++ "T" ++ c.clockText ++ "." ++ padNat (c.nanos / 1000) 6 ++ "Z"

/-- The text used in messages: date, a space, time with the shortest exact fraction, and
` UTC`. -/
def toMessageText (t : Instant) : String :=
  let c := t.civil
  c.dateText ++ " " ++ c.clockText ++ fractionText c.nanos ++ " UTC"

end Instant

def minYear : Int := -262143

def maxYear : Int := 262142

def yearInRange (y : Int) : Bool := minYear ≤ y && y ≤ maxYear

/-- Why a date or time text was refused. -/
inductive TimeTextError where
  | invalid
  | outOfRange
  | tooShort
  | tooLong
  | impossible
  deriving DecidableEq, Repr

/-- The message of a refused date or time text. -/
def TimeTextError.message : TimeTextError → String
  | .invalid => "input contains invalid characters"
  | .outOfRange => "input is out of range"
  | .tooShort => "premature end of input"
  | .tooLong => "trailing input"
  | .impossible => "no possible date and time matching input"

/-- Reads between `least` and `most` ASCII digits as a number; a text of fewer than `least`
bytes is too short. -/
def readNumber (cs : List Char) (least most : Nat) : Except TimeTextError (Nat × List Char) :=
  let ds := (cs.take most).takeWhile Char.isDigit
  if cs.foldl (fun n c => n + c.utf8Size) 0 < least then .error .tooShort
  else if ds.length < least then .error .invalid
  else .ok (ds.foldl (fun n c => n * 10 + (c.toNat - '0'.toNat)) 0, cs.drop ds.length)

/-- Expects a literal character. -/
def readLiteral (cs : List Char) (c : Char) : Except TimeTextError (List Char) :=
  match cs with
  | [] => .error .tooShort
  | d :: rest => if d = c then .ok rest else .error .invalid

/-- Reads a field after skipping blanks; a year may carry a sign and then any number of
digits, other fields have at most `most` digits. -/
def readField (cs : List Char) (most : Nat) (signed : Bool) : Except TimeTextError (Int × List Char) :=
  let cs := trimBlankStart cs
  match cs with
  | '-' :: rest =>
    if signed then (readNumber rest 1 rest.length).map fun (n, r) => (-(n : Int), r)
    else (readNumber cs 1 most).map fun (n, r) => ((n : Int), r)
  | '+' :: rest =>
    if signed then (readNumber rest 1 rest.length).map fun (n, r) => ((n : Int), r)
    else (readNumber cs 1 most).map fun (n, r) => ((n : Int), r)
  | _ => (readNumber cs 1 most).map fun (n, r) => ((n : Int), r)

/-- A checked field value: within `lo` and `hi`, else out of range. -/
def checkRange (v : Int) (lo hi : Int) : Except TimeTextError Nat :=
  if lo ≤ v ∧ v ≤ hi then .ok v.toNat else .error .outOfRange

/-- Reads `year-month-day`, blanks allowed before each number, and also before each dash
when `spaced`. -/
def readDate (cs : List Char) (spaced : Bool) :
    Except TimeTextError ((Int × Nat × Nat) × List Char) := do
  let gap (cs : List Char) := if spaced then trimBlankStart cs else cs
  let (y, cs) ← readField cs 4 true
  if y < -2147483648 ∨ 2147483647 < y then throw .outOfRange
  let cs ← readLiteral (gap cs) '-'
  let (m, cs) ← readField cs 2 false
  let m ← checkRange m 1 12
  let cs ← readLiteral (gap cs) '-'
  let (d, cs) ← readField cs 2 false
  let d ← checkRange d 1 31
  return ((y, m, d), cs)

/-- Reads a fraction of a second after its point: up to nine digits count, more are
skipped. -/
def readFraction (cs : List Char) : Except TimeTextError (Nat × List Char) := do
  let (v, rest) ← readNumber cs 1 9
  let used := cs.length - rest.length
  return (v * Nat.pow 10 (9 - used), rest.dropWhile Char.isDigit)

/-- Reads a UTC offset in seconds: `Z`, or a sign, two hour digits, optional colons or
blanks, and two minute digits. -/
def readOffset (cs : List Char) : Except TimeTextError (Int × List Char) := do
  match cs with
  | 'Z' :: rest => return (0, rest)
  | 'z' :: rest => return (0, rest)
  | [] => throw .tooShort
  | c :: rest =>
    let negative ← if c = '+' then pure false
      else if c = '-' ∨ c = '−' then pure true
      else throw .invalid
    let (hours, rest) ← readNumber rest 2 2
    let rest := rest.dropWhile fun c => c = ':' ∨ isBlank c
    let (minutes, rest) ← readNumber rest 2 2
    if 59 < minutes then throw .outOfRange
    let secs : Int := (hours * 3600 + minutes * 60 : Nat)
    return (if negative then -secs else secs, rest)

def refuseIf (bad : Bool) (e : TimeTextError) : Except TimeTextError Unit :=
  if bad then .error e else .ok ()

/-- Reads an RFC 3339 date and time in its relaxed form: `T`, `t` or a space between date and
time, blanks allowed between fields, any number of fraction digits, and `Z`, `UTC` or an
offset of less than a day; the instant is converted to UTC, and the date both before and
after that conversion must lie within the calendar's range. -/
def readInstantText (s : String) : Except TimeTextError Instant := do
  let ((y, mo, d), cs) ← readDate s.toList true
  let cs ← match cs with
    | c :: rest => if c = 'T' ∨ c = 't' ∨ c = ' ' then pure rest else throw .invalid
    | [] => throw .tooShort
  let (h, cs) ← readField cs 2 false
  let h ← checkRange h 0 23
  let cs ← readLiteral (trimBlankStart cs) ':'
  let (mi, cs) ← readField cs 2 false
  let mi ← checkRange mi 0 59
  let cs ← readLiteral (trimBlankStart cs) ':'
  let (sec, cs) ← readField cs 2 false
  let sec ← checkRange sec 0 60
  let (nanos, cs) ← match cs with
    | '.' :: rest => readFraction rest
    | _ => pure (0, cs)
  let cs := trimBlankStart cs
  let upper := (cs.take 3).map Char.toUpper
  let (offset, cs) ←
    if upper = ['U', 'T', 'C'] then pure ((0 : Int), cs.drop 3) else readOffset cs
  refuseIf (!(trimBlankStart cs).isEmpty) .tooLong
  refuseIf (!yearInRange y) .outOfRange
  refuseIf (decide (daysInMonth y mo < d)) .outOfRange
  refuseIf (decide (86400 ≤ offset.natAbs)) .outOfRange
  if hn : nanos < 1000000000 then
    let t := (Instant.ofCivilLeap y mo d h mi sec nanos hn).addSeconds (-offset)
    if yearInRange t.civil.year then return t else throw .impossible
  else throw .outOfRange

/-- Reads a date written `year-month-day` as midnight UTC; nothing may follow it. -/
def readDateText (s : String) : Except TimeTextError Instant := do
  let ((y, mo, d), cs) ← readDate s.toList false
  if !cs.isEmpty then throw .tooLong
  if !yearInRange y then throw .outOfRange
  if daysInMonth y mo < d then throw .outOfRange
  return Instant.ofCivil y mo d 0 0 0 0 (by decide)

def readDigits (cs : List Char) (n : Nat) : Except TimeTextError (Nat × List Char) :=
  readNumber cs n n

/-- Reads an RFC 3339 date and time in its strict form: four-digit year, two-digit fields,
`T`, `t` or a space, an optional fraction, and `Z` or an offset `±hh:mm` below 24 hours, with
nothing after it; the instant is converted to UTC. -/
def readStrictInstantText (s : String) : Except TimeTextError Instant := do
  let (y, cs) ← readDigits s.toList 4
  let cs ← readLiteral cs '-'
  let (mo, cs) ← readDigits cs 2
  let mo ← checkRange mo 1 12
  let cs ← readLiteral cs '-'
  let (d, cs) ← readDigits cs 2
  let d ← checkRange d 1 31
  let cs ← match cs with
    | c :: rest => if c = 'T' ∨ c = 't' ∨ c = ' ' then pure rest else throw .invalid
    | [] => throw .tooShort
  let (h, cs) ← readDigits cs 2
  let h ← checkRange h 0 23
  let cs ← readLiteral cs ':'
  let (mi, cs) ← readDigits cs 2
  let mi ← checkRange mi 0 59
  let cs ← readLiteral cs ':'
  let (sec, cs) ← readDigits cs 2
  let sec ← checkRange sec 0 60
  let (nanos, cs) ← match cs with
    | '.' :: rest => readFraction rest
    | _ => pure (0, cs)
  let (offset, cs) ← match cs with
    | 'Z' :: rest => pure ((0 : Int), rest)
    | 'z' :: rest => pure ((0 : Int), rest)
    | c :: rest =>
      let negative ← if c = '+' then pure false
        else if c = '-' ∨ c = '−' then pure true
        else throw .invalid
      let (hours, rest) ← readDigits rest 2
      let rest ← readLiteral rest ':'
      let (minutes, rest) ← readDigits rest 2
      if 59 < minutes then throw .outOfRange
      if 23 < hours then throw .outOfRange
      let secs : Int := (hours * 3600 + minutes * 60 : Nat)
      pure (if negative then -secs else secs, rest)
    | [] => throw .tooShort
  if !cs.isEmpty then throw .tooLong
  if daysInMonth y mo < d then throw .outOfRange
  if hn : nanos < 1000000000 then
    return (Instant.ofCivilLeap y mo d h mi sec nanos hn).addSeconds (-offset)
  else throw .outOfRange

end ForexJournal
