import ForexJournal.Database.Value

/-!
# Tokens of database statements

Statements that act on a database from outside are read as a list of tokens: bare words
(keywords and names), quoted names, text literals, numeric literals and symbols. Blanks and
comments (`--` to the end of the line, and `/* ... */`) separate tokens and are dropped. A
text literal doubles its quote to contain one.

Scanning consumes at least one character per token, so `scan` runs on fuel equal to the
length of the input.
-/

namespace ForexJournal

/-- A token of a statement. -/
inductive Token where
  /-- a bare word: a keyword or a name -/
  | word (text : String)
  /-- a quoted name -/
  | quoted (text : String)
  /-- a text literal -/
  | str (text : String)
  /-- a numeric literal -/
  | num (text : String)
  /-- an operator or a punctuation mark -/
  | sym (text : String)
  deriving DecidableEq, Repr

namespace Token

/-- The token as it was written, for error messages. -/
def source : Token → String
  | .word w => w
  | .quoted n => "\"" ++ n ++ "\""
  | .str s => "'" ++ s ++ "'"
  | .num n => n
  | .sym s => s

/-- The token is the keyword `k` (given in capitals), in any case. -/
def isKeyword (t : Token) (k : String) : Bool :=
  match t with
  | .word w => w.map Char.toUpper == k
  | _ => false

def wordChar (c : Char) : Bool := c.isAlphanum || c == '_' || c == '$' || 128 ≤ c.toNat

def textQuote : Char := Char.ofNat 39

def pairs : List String := ["==", "!=", "<>", "<=", ">=", "||"]

def singles : List Char := ['(', ')', ',', ';', '=', '<', '>', '+', '-', '*', '/', '%', '.']

/-- Reads the rest of a quoted run up to the closing `q`, a doubled `q` standing for one;
gives the contents and what follows, or `none` if the run is not closed. -/
def quotedRun (q : Char) : List Char → List Char → Option (String × List Char)
  | [], _ => none
  | c :: rest, acc =>
    if c == q then
      match rest with
      | d :: rest' => if d == q then quotedRun q rest' (q :: acc) else some (String.ofList acc.reverse, rest)
      | [] => some (String.ofList acc.reverse, [])
    else quotedRun q rest (c :: acc)

/-- Drops a block comment's body up to and including its closing mark. -/
def skipBlock : List Char → List Char
  | '*' :: '/' :: rest => rest
  | _ :: rest => skipBlock rest
  | [] => []

def unrecognized (s : String) : String := "unrecognized token: \"" ++ s ++ "\""

/-- Reads the digits, point and exponent of a number. -/
def numberRun (cs : List Char) : List Char × List Char :=
  let whole := cs.takeWhile Char.isDigit
  let rest := cs.drop whole.length
  let (frac, rest) := match rest with
    | '.' :: r => let f := r.takeWhile Char.isDigit; ('.' :: f, r.drop f.length)
    | r => ([], r)
  let (expo, rest) := match rest with
    | e :: r =>
      if e == 'e' || e == 'E' then
        let (sign, r') := match r with
          | s :: r'' => if s == '+' || s == '-' then ([s], r'') else ([], r)
          | [] => ([], r)
        let ds := r'.takeWhile Char.isDigit
        if ds.isEmpty then ([], e :: r) else (e :: sign ++ ds, r'.drop ds.length)
      else ([], e :: r)
    | [] => ([], [])
  (whole ++ frac ++ expo, rest)

/-- Scans a statement text into tokens (see the module note); `fuel` bounds the number of
tokens and blanks read. -/
def scan : Nat → List Char → Except String (List Token)
  | 0, _ => .ok []
  | fuel + 1, cs =>
    match cs with
    | [] => .ok []
    | c :: rest =>
      if c.isWhitespace then scan fuel rest
      else if c == '-' && rest.head? == some '-' then scan fuel (rest.dropWhile (· != '\n'))
      else if c == '/' && rest.head? == some '*' then scan fuel (skipBlock (rest.drop 1))
      else if c.isAlpha || c == '_' || 128 ≤ c.toNat then
        let w := cs.takeWhile wordChar
        (Token.word (String.ofList w) :: ·) <$> scan fuel (cs.drop w.length)
      else if c.isDigit || (c == '.' && (rest.head?.map Char.isDigit).getD false) then
        let (n, after) := numberRun cs
        match after with
        | d :: _ =>
          if wordChar d then .error (unrecognized (String.ofList (n ++ after.takeWhile wordChar)))
          else (Token.num (String.ofList n) :: ·) <$> scan fuel after
        | [] => (Token.num (String.ofList n) :: ·) <$> scan fuel after
      else if c == textQuote then
        match quotedRun textQuote rest [] with
        | some (s, after) => (Token.str s :: ·) <$> scan fuel after
        | none => .error (unrecognized (String.ofList cs))
      else if c == '"' || c.toNat == 96 then
        match quotedRun c rest [] with
        | some (s, after) => (Token.quoted s :: ·) <$> scan fuel after
        | none => .error (unrecognized (String.ofList cs))
      else if c == '[' then
        let body := rest.takeWhile (· != ']')
        if body.length == rest.length then .error (unrecognized (String.ofList cs))
        else (Token.quoted (String.ofList body) :: ·) <$> scan fuel (rest.drop (body.length + 1))
      else
        let two := String.ofList (cs.take 2)
        if pairs.contains two then (Token.sym two :: ·) <$> scan fuel (cs.drop 2)
        else if singles.contains c then (Token.sym (String.singleton c) :: ·) <$> scan fuel rest
        else .error (unrecognized (String.singleton c))

def scanText (s : String) : Except String (List Token) := scan (s.length + 1) s.toList

end Token

end ForexJournal
