/-!
# Identifiers

An identifier is a 128-bit number, written as 32 lowercase hexadecimal digits in groups of
8-4-4-4-12. Reading also accepts the 32 digits without dashes, the grouped form in braces, and
the grouped form after `urn:uuid:`, the prefix and the digits in either case. New identifiers
are numbered: the store hands out serial numbers and builds version-4-shaped identifiers from
them.
-/

namespace ForexJournal

def uuidBound : Nat := 340282366920938463463374607431768211456

/-- A 128-bit identifier. -/
structure Uuid where
  value : Nat
  value_lt : value < uuidBound

namespace Uuid

instance : DecidableEq Uuid := fun a b =>
  if h : a.value = b.value then isTrue (by cases a; cases b; simp_all)
  else isFalse (by intro e; subst e; exact h rfl)

def nil : Uuid := ⟨0, by decide⟩

instance : Inhabited Uuid := ⟨nil⟩

def ofNat (n : Nat) : Uuid := ⟨n % uuidBound, Nat.mod_lt _ (by decide)⟩

/-- The identifier numbered `n` among those the store hands out: version 4, variant 1, the
serial number in the low bits and a fixed tag in the high bits. -/
def ofSerial (n : Nat) : Uuid :=
  ofNat (0x5eed0000000040008000000000000000 + n % 281474976710656)

def hexDigit (n : Nat) : Char :=
  if n < 10 then Char.ofNat (48 + n) else Char.ofNat (87 + n)

def hexDigits (u : Uuid) : List Char :=
  (List.range 32).reverse.map fun i => hexDigit (u.value / Nat.pow 16 i % 16)

/-- The grouped lowercase text `xxxxxxxx-xxxx-xxxx-xxxx-xxxxxxxxxxxx`. -/
def toText (u : Uuid) : String :=
  let d := u.hexDigits
  String.ofList (d.take 8 ++ ['-'] ++ (d.drop 8).take 4 ++ ['-'] ++ (d.drop 12).take 4 ++
    ['-'] ++ (d.drop 16).take 4 ++ ['-'] ++ d.drop 20)

instance : ToString Uuid := ⟨toText⟩

/-- The value of a hexadecimal digit of either case. -/
def hexValue? (c : Char) : Option Nat :=
  if c.isDigit then some (c.toNat - 48)
  else if 'a' ≤ c ∧ c ≤ 'f' then some (c.toNat - 87)
  else if 'A' ≤ c ∧ c ≤ 'F' then some (c.toNat - 55)
  else none

/-- The number written by hexadecimal digits, if all of them are digits. -/
def hexNumber? (cs : List Char) : Option Nat :=
  cs.foldlM (fun n c => (hexValue? c).map (n * 16 + ·)) 0

/-- The digits of a grouped form, if its dashes stand at 8, 13, 18 and 23. -/
def ungroup? (cs : List Char) : Option (List Char) :=
  if cs.length = 36 ∧ cs[8]? = some '-' ∧ cs[13]? = some '-' ∧ cs[18]? = some '-' ∧
      cs[23]? = some '-' then
    some (cs.take 8 ++ (cs.drop 9).take 4 ++ (cs.drop 14).take 4 ++ (cs.drop 19).take 4 ++
      cs.drop 24)
  else none

/-- The text starts with `urn:uuid:`, letters in either case. -/
def urnPrefix (cs : List Char) : Bool :=
  (cs.take 9).map Char.toLower = "urn:uuid:".toList

/-- Why a text is not an identifier, in the words of its message. A text longer than every
accepted form is too long; otherwise the first character that is neither a hexadecimal digit
nor a dash is named, with its byte position after any prefix or brace; then the dashes are
counted and the groups between them measured. The last group's length counts every byte of
the text from where that group should start. -/
def refusal (s : String) : String :=
  let cs := s.toList
  let size := s.utf8ByteSize
  let lengthMessage := "invalid length: found " ++ toString size
  let (body, offset, simple) :=
    match cs with
    | '{' :: rest =>
      if rest.getLast? = some '}' then (rest.dropLast, 1, false) else (cs, 0, true)
    | _ => if urnPrefix cs then (cs.drop 9, 9, false) else (cs, 0, true)
  let bad := (body.zipIdx).find? fun (c, _) => c != '-' && (hexValue? c).isNone
  if 45 < size then lengthMessage
  else
  match bad with
  | some (c, i) =>
    let index := (String.ofList (body.take i)).utf8ByteSize + offset
    "invalid character: found `" ++ String.singleton c ++ "` at " ++ toString index
  | none =>
    let dashes := (body.zipIdx).filterMap fun (c, i) => if c = '-' then some i else none
    if dashes.isEmpty ∧ simple then lengthMessage
    else if dashes.length ≠ 4 then
      "invalid group count: expected 5, found " ++ toString (dashes.length + 1)
    else
      let starts := [0, 9, 14, 19, 24]
      let expected := [8, 4, 4, 4, 12]
      let wrong := (List.range 4).find? fun i => dashes[i]? ≠ some (starts.getD (i + 1) 0 - 1)
      match wrong with
      | some i =>
        "invalid group length in group " ++ toString i ++ ": expected " ++
          toString (expected.getD i 0) ++ ", found " ++
          toString (dashes.getD i 0 - starts.getD i 0)
      | none =>
        "invalid group length in group 4: expected 12, found " ++ toString (size - 24)

/-- Reads an identifier (see the module note for the accepted forms). -/
def parse (s : String) : Except String Uuid :=
  let cs := s.toList
  let digits? : Option (List Char) :=
    if cs.length = 32 then some cs
    else if cs.length = 36 then ungroup? cs
    else if cs.length = 38 ∧ cs.head? = some '{' ∧ cs.getLast? = some '}' then
      ungroup? (cs.drop 1).dropLast
    else if cs.length = 45 ∧ urnPrefix cs then ungroup? (cs.drop 9)
    else none
  match digits?.bind hexNumber? with
  | some n => .ok (ofNat n)
  | none => .error (refusal s)

end Uuid

end ForexJournal
