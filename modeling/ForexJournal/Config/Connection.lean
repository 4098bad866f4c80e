import ForexJournal.Text.Blank

/-!
# Server connection strings

A server backend is configured by a connection string, in one of two forms:

* a URL, `postgres://` or `postgresql://`, then optional credentials and `@`, hosts with
  optional ports, an optional `/database` and optional `?key=value&...` parameters;
* keywords, `key = value` pairs separated by blanks, where a value is a run of non-blanks or a
  text in single quotes, and a backslash takes the next character literally.

Every key must be one the server library knows, and the keys with a fixed set of values
(`sslmode`, `target_session_attrs`, ...) or a numeric value (`port`, `connect_timeout`, ...)
must have a valid one. `ConnectionString.read` gives the parameters of a valid string, or
`none`.
-/

namespace ForexJournal

namespace ConnectionString

def textKeys : List String :=
  ["user", "password", "dbname", "options", "application_name", "sslcert", "sslkey",
    "sslrootcert", "host"]

/-- The keys with a fixed set of values, with those values. -/
def choiceKeys : List (String × List String) :=
  [("sslmode", ["disable", "prefer", "require"]), ("sslnegotiation", ["postgres", "direct"]),
   ("target_session_attrs", ["any", "read-write"]),
   ("channel_binding", ["disable", "prefer", "require"]),
   ("load_balance_hosts", ["disable", "random"])]

/-- Reads a signed 64-bit integer. -/
def isInt64 (s : String) : Bool :=
  let ds := match s.toList with
    | '-' :: r => r
    | '+' :: r => r
    | r => r
  !ds.isEmpty && ds.all Char.isDigit && ds.length ≤ 19

/-- Reads an unsigned integer below `bound`. -/
def isNatBelow (bound : Nat) (s : String) : Bool :=
  let ds := match s.toList with
    | '+' :: r => r
    | r => r
  !ds.isEmpty && ds.all Char.isDigit &&
    ds.foldl (fun acc c => acc * 10 + (c.toNat - 48)) 0 < bound

/-- Whether a text is an IPv4 address in dotted form. -/
def isIpv4 (s : String) : Bool :=
  let parts := s.splitOn "."
  parts.length == 4 && parts.all fun p =>
    !p.isEmpty && p.length ≤ 3 && p.all Char.isDigit && (p.length == 1 || !p.startsWith "0") &&
      isNatBelow 256 p

/-- Whether a text is an IPv6 address: hexadecimal groups separated by colons, with at most
one `::`. -/
def isIpv6 (s : String) : Bool :=
  let hexGroup (g : String) : Bool :=
    !g.isEmpty && g.length ≤ 4 && g.toList.all fun (c : Char) => c.isDigit || ('a' ≤ c.toLower && c.toLower ≤ 'f')
  let halves := s.splitOn "::"
  match halves with
  | [whole] => let gs := whole.splitOn ":"; gs.length == 8 && gs.all hexGroup
  | [a, b] =>
    let ga := if a.isEmpty then [] else a.splitOn ":"
    let gb := if b.isEmpty then [] else b.splitOn ":"
    ga.length + gb.length ≤ 7 && ga.all hexGroup && gb.all hexGroup
  | _ => false

/-- Whether a key may take a value. -/
def accepts (key value : String) : Bool :=
  if textKeys.contains key then true
  else if let some vs := choiceKeys.lookup key then vs.contains value
  else if key == "hostaddr" then (value.splitOn ",").all fun a => isIpv4 a || isIpv6 a
  else if key == "port" then (value.splitOn ",").all fun p => p.isEmpty || isNatBelow 65536 p
  else if key == "connect_timeout" || key == "tcp_user_timeout" || key == "keepalives_idle" ||
      key == "keepalives_interval" then isInt64 value
  else if key == "keepalives" then isNatBelow 18446744073709551616 value
  else if key == "keepalives_retries" then isNatBelow 4294967296 value
  else false

/-- Reads a value in quotes up to the closing quote, a backslash taking the next character. -/
def quotedValue : List Char → List Char → Option (String × List Char)
  | [], _ => none
  | '\\' :: c :: rest, acc => quotedValue rest (c :: acc)
  | ['\\'], acc => quotedValue [] acc
  | c :: rest, acc =>
    if c.toNat == 39 then some (String.ofList acc.reverse, rest) else quotedValue rest (c :: acc)

/-- Reads a value up to the next blank, a backslash taking the next character. -/
def simpleValue : List Char → List Char → String × List Char
  | [], acc => (String.ofList acc.reverse, [])
  | '\\' :: c :: rest, acc => simpleValue rest (c :: acc)
  | ['\\'], acc => (String.ofList acc.reverse, [])
  | c :: rest, acc =>
    if isBlank c then (String.ofList acc.reverse, c :: rest) else simpleValue rest (c :: acc)

/-- Reads `key = value` pairs; `fuel` bounds their number. -/
def keywordPairs : Nat → List Char → Option (List (String × String))
  | 0, _ => some []
  | fuel + 1, cs =>
    let cs := cs.dropWhile isBlank
    if cs.isEmpty then some []
    else
      let key := cs.takeWhile fun c => !isBlank c && c != '='
      let rest := (cs.drop key.length).dropWhile isBlank
      match rest with
      | '=' :: rest =>
        let rest := rest.dropWhile isBlank
        let value? := match rest with
          | c :: r => if c.toNat == 39 then quotedValue r [] else
              let (v, r') := simpleValue rest []
              if v.isEmpty then none else some (v, r')
          | [] => none
        match value? with
        | some (v, r) =>
          if accepts (String.ofList key) v then
            (keywordPairs fuel r).map ((String.ofList key, v) :: ·)
          else none
        | none => none
      | _ => none

/-- Reads the parameters of a URL after its scheme. -/
def urlPairs (rest : String) : Option (List (String × String)) :=
  let (main, query) := match rest.splitOn "?" with
    | [m] => (m, "")
    | m :: qs => (m, "?".intercalate qs)
    | [] => (rest, "")
  let netloc := (main.splitOn "/").headD ""
  let hostPart := (netloc.splitOn "@").getLastD ""
  let hostsOk := (hostPart.splitOn ",").all fun h =>
    if h.startsWith "[" then true
    else
      match h.splitOn ":" with
      | [_] => true
      | [_, p] => p.isEmpty || isNatBelow 65536 p
      | _ => false
  let params := if query.isEmpty then [] else query.splitOn "&"
  let pairs := params.filterMap fun p =>
    match p.splitOn "=" with
    | k :: vs => some (k, "=".intercalate vs)
    | [] => none
  if hostsOk && pairs.all (fun (k, v) => accepts k v) then
    some ((if hostPart.isEmpty then [] else [("host", hostPart)]) ++ pairs)
  else none

/-- The parameters of a valid connection string, or `none`. -/
def read (s : String) : Option (List (String × String)) :=
  if s.startsWith "postgres://" then urlPairs (s.drop 11).toString
  else if s.startsWith "postgresql://" then urlPairs (s.drop 13).toString
  else keywordPairs (s.length + 1) s.toList

end ConnectionString

end ForexJournal
