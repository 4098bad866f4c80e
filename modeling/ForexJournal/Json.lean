/-!
# JSON documents

The command line prints its results as JSON. A document is null, a boolean, an integer, a
string, an array or an object with its members in a fixed order. Strings are written with
the escapes of RFC 8259: quote, backslash and the control characters below U+0020, the common
ones by letter and the rest as `\u00XX`; everything else is written as it is.
-/

namespace ForexJournal

/-- A JSON document. -/
inductive Json where
  | null
  | bool (b : Bool)
  | num (n : Int)
  | str (s : String)
  | arr (items : List Json)
  | obj (members : List (String × Json))
  deriving Inhabited

namespace Json

def hexChar (n : Nat) : Char := if n < 10 then Char.ofNat (48 + n) else Char.ofNat (87 + n)

/-- The escaped form of one character inside a string. -/
def escapeChar (c : Char) : String :=
  if c = '"' then "\\\""
  else if c = '\\' then "\\\\"
  else if c = '\n' then "\\n"
  else if c = '\r' then "\\r"
  else if c = '\t' then "\\t"
  else if c.toNat = 8 then "\\b"
  else if c.toNat = 12 then "\\f"
  else if c.toNat < 32 then
    "\\u00" ++ String.singleton (hexChar (c.toNat / 16)) ++ String.singleton (hexChar (c.toNat % 16))
  else String.singleton c

def quote (s : String) : String := "\"" ++ String.join (s.toList.map escapeChar) ++ "\""

mutual

/-- The compact text of a document. -/
def render : Json → String
  | .null => "null"
  | .bool b => if b then "true" else "false"
  | .num n => toString n
  | .str s => quote s
  | .arr items => "[" ++ renderItems items ++ "]"
  | .obj members => "\x7b" ++ renderMembers members ++ "\x7d"

/-- The compact text of array items, separated by commas. -/
def renderItems : List Json → String
  | [] => ""
  | [v] => render v
  | v :: rest => render v ++ "," ++ renderItems rest

/-- The compact text of object members, separated by commas. -/
def renderMembers : List (String × Json) → String
  | [] => ""
  | [(k, v)] => quote k ++ ":" ++ render v
  | (k, v) :: rest => quote k ++ ":" ++ render v ++ "," ++ renderMembers rest

end

def pad (n : Nat) : String := String.ofList (List.replicate n ' ')

mutual

/-- The text of a document indented by two spaces per level from `indent`, as the command
line prints it. -/
def renderPretty (indent : Nat) : Json → String
  | .arr [] => "[]"
  | .obj [] => "\x7b\x7d"
  | .arr items => "[\n" ++ prettyItems (indent + 2) items ++ "\n" ++ pad indent ++ "]"
  | .obj members => "\x7b\n" ++ prettyMembers (indent + 2) members ++ "\n" ++ pad indent ++ "\x7d"
  | v => render v

/-- Array items, one a line. -/
def prettyItems (indent : Nat) : List Json → String
  | [] => ""
  | [v] => pad indent ++ renderPretty indent v
  | v :: rest => pad indent ++ renderPretty indent v ++ ",\n" ++ prettyItems indent rest

/-- Object members, one a line. -/
def prettyMembers (indent : Nat) : List (String × Json) → String
  | [] => ""
  | [(k, v)] => pad indent ++ quote k ++ ": " ++ renderPretty indent v
  | (k, v) :: rest =>
    pad indent ++ quote k ++ ": " ++ renderPretty indent v ++ ",\n" ++ prettyMembers indent rest

end

def opt {α : Type} (f : α → Json) : Option α → Json
  | some a => f a
  | none => .null

/-- The member of an object with the given key. -/
def field? (j : Json) (key : String) : Option Json :=
  match j with
  | .obj members => (members.find? (·.1 == key)).map (·.2)
  | _ => none

end Json

end ForexJournal
