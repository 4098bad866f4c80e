import ForexJournal.Text.Blank
import ForexJournal.Text.Lowercase

/-!
# INI documents

A document is read line by line. Everything from the first `;` or `#` on a line is a comment.
A line that starts with `[` names the section of the lines after it, up to its last `]`; one
without a closing bracket is an error. Any other non-blank line is a key, up to the first `=`
or `:`, with the rest of the line as its value, or a key with no value when neither appears.
Keys before the first section belong to the section `default`. Section names and keys are
trimmed and lowercased by the Unicode mapping (`toLowercase`), values trimmed; a later key
replaces an earlier one of the same name, also when its section is opened a second time.

Errors name the line, counting from 1.
-/

namespace ForexJournal

/-- The keys of one section, each with its value if it has one. -/
abbrev IniSection := List (String × Option String)

/-- A read INI document: sections with their keys. -/
structure Ini where
  sections : List (String × IniSection)
  deriving Inhabited

namespace Ini

/-- The Unicode lowercase of a name; names are compared in this form. -/
def caseless (s : String) : String := toLowercase s

/-- Splits a text into lines at line feeds, dropping a carriage return before each feed. -/
def lines (s : String) : List String :=
  let parts := s.splitOn "\n"
  let parts := if parts.getLast? = some "" then parts.dropLast else parts
  parts.map fun l => if l.endsWith "\r" then String.ofList l.toList.dropLast else l

def uncomment (line : String) : List Char :=
  line.toList.takeWhile fun c => c != ';' && c != '#'

/-- Sets a key in a section list, adding the section or the key when missing. -/
def setKey (secs : List (String × IniSection)) (sec key : String) (value : Option String) :
    List (String × IniSection) :=
  let put (keys : IniSection) : IniSection :=
    if keys.any (·.1 == key) then keys.map fun (k, v) => if k == key then (k, value) else (k, v)
    else keys ++ [(key, value)]
  if secs.any (·.1 == sec) then secs.map fun (s, ks) => if s == sec then (s, put ks) else (s, ks)
  else secs ++ [(sec, put [])]

def openSection (secs : List (String × IniSection)) (sec : String) : List (String × IniSection) :=
  if secs.any (·.1 == sec) then secs else secs ++ [(sec, [])]

/-- What one line does: opens a section, sets a key, or nothing; or an error message. -/
inductive LineEffect where
  | skip
  | header (name : String)
  | key (name : String) (value : Option String)
  | fail (message : String)

/-- Reads line number `num` (from 1). -/
def readLine (num : Nat) (raw : String) : LineEffect :=
  let trimmed := trimBlank (String.ofList (uncomment raw))
  let cs := trimmed.toList
  if cs.isEmpty then .skip
  else if cs.head? = some '[' then
    match (cs.zipIdx.filter (·.1 == ']')).getLast? with
    | some (_, close) => .header (caseless (trimBlank (String.ofList ((cs.take close).drop 1))))
    | none =>
      .fail ("line " ++ toString num ++
        ": Found opening bracket for section name but no closing bracket")
  else
    match cs.findIdx? fun c => c == '=' || c == ':' with
    | some d =>
      let key := caseless (trimBlank (String.ofList (cs.take d)))
      if key.isEmpty then
        .fail ("line " ++ toString num ++ ":" ++ toString (String.ofList (cs.take d)).utf8ByteSize ++
          ": Key cannot be empty")
      else .key key (some (trimBlank (String.ofList (cs.drop (d + 1)))))
    | none => .key (caseless trimmed) none

/-- Reads the lines from number `num` on, in section `sec`. -/
def readLines (secs : List (String × IniSection)) (sec : String) (num : Nat) :
    List String → Except String (List (String × IniSection))
  | [] => .ok secs
  | l :: ls =>
    match readLine num l with
    | .skip => readLines secs sec (num + 1) ls
    | .header name => readLines (openSection secs name) name (num + 1) ls
    | .key k v => readLines (setKey secs sec k v) sec (num + 1) ls
    | .fail m => .error m

/-- Reads a document, or gives the message of its first error. -/
def parse (text : String) : Except String Ini :=
  (readLines [] "default" 1 (lines text)).map (⟨·⟩)

/-- The value of a key, when the key is present with a value. -/
def get (ini : Ini) (sec key : String) : Option String := do
  let keys ← (ini.sections.find? (·.1 == caseless sec)).map (·.2)
  let (_, v) ← keys.find? (·.1 == caseless key)
  v

end Ini

/-- Reads a signed 64-bit integer: an optional sign and at least one decimal digit. -/
def parseInt64? (s : String) : Option Int :=
  let (neg, digits) := match s.toList with
    | '-' :: rest => (true, rest)
    | '+' :: rest => (false, rest)
    | cs => (false, cs)
  if digits.isEmpty || !digits.all Char.isDigit then none
  else
    let n := digits.foldl (fun (acc : Nat) c => acc * 10 + (c.toNat - 48)) 0
    let v : Int := if neg then -(n : Int) else n
    if v < -9223372036854775808 ∨ 9223372036854775807 < v then none else some v

end ForexJournal
