import RosterSync.Database.Datum

/-!
Splitting statement text into tokens.

Blanks and comments (`-- …` to the end of the line, `/* … */`) separate tokens. A word is a
letter, `_` or non-ASCII character followed by letters, digits, `_`, `$` and non-ASCII
characters; keywords are words. An identifier may also be quoted with `"…"`, `[…]` or
`` `…` ``, a doubled quote standing for itself. A string is quoted with `'…'`, a byte string is
`x'…'` with an even number of hex digits. A number is decimal digits with an optional fraction
and exponent, or `0x` and hex digits; single underscores may separate digits. A parameter is
`?`, `?` with digits, or `:`, `@` or `$` followed by a name. Anything else, or a number run into a
word, is an error.
-/

namespace RosterSync.Database

inductive Token where
  | word (text : String)
  | quoted (text : String)
  | string (text : String)
  | number (text : String) (isReal : Bool)
  | blob (bytes : List UInt8)
  | param (name : String)
  | symbol (text : String)
deriving DecidableEq, Repr, Inhabited

def isWordChar (c : Char) : Bool := c.isAlphanum || c = '_' || c = '$' || c.toNat ≥ 128

def isWordStart (c : Char) : Bool := c.isAlpha || c = '_' || c.toNat ≥ 128

def isHexChar (c : Char) : Bool := c.isDigit || ('a' ≤ c && c ≤ 'f') || ('A' ≤ c && c ≤ 'F')

def hexValue (c : Char) : Nat :=
  if c.isDigit then c.toNat - 48 else if 'a' ≤ c && c ≤ 'f' then c.toNat - 87 else c.toNat - 55

def isBlankChar (c : Char) : Bool := c = ' ' || c = '\t' || c = '\n' || c.toNat = 12 || c = '\r'

def skipBlockComment : List Char → List Char
  | '*' :: '/' :: rest => rest
  | _ :: rest => skipBlockComment rest
  | [] => []

/-- Reads a quoted run up to its closing quote, a doubled quote standing for one: the text and
the rest after the quote, or nothing when unterminated. -/
def readQuoted (close : Char) (doubled : Bool) : List Char → List Char → Option (List Char × List Char)
  | [], _ => none
  | c :: rest, acc =>
    if c = close then
      match rest with
      | c' :: rest' => if doubled && c' = close then readQuoted close doubled rest' (c :: acc)
        else some (acc.reverse, rest)
      | [] => some (acc.reverse, [])
    else readQuoted close doubled rest (c :: acc)

/-- Reads a run of digits that may hold single underscores between digits: the run (underscores
kept) and whether an underscore appeared. -/
def digitRun (hex : Bool) : List Char → List Char × List Char
  | c :: rest =>
    if (if hex then isHexChar c else c.isDigit) || c = '_' then
      let (run, r) := digitRun hex rest
      (c :: run, r)
    else ([], c :: rest)
  | [] => ([], [])

/-- Whether every underscore of a number stands between two digits of its kind. -/
def separatorsValid (hex : Bool) (cs : List Char) : Bool :=
  let ok (c : Char) := if hex then isHexChar c else c.isDigit
  let rec go : List Char → Option Char → Bool
    | [], _ => true
    | '_' :: rest, prev =>
      match prev, rest with
      | some p, n :: _ => ok p && ok n && go rest (some '_')
      | _, _ => false
    | c :: rest, _ => go rest (some c)
  go cs none

/-- Reads a number at the front of the text: its characters and whether it is written as a
real; nothing when malformed. -/
def readNumber (cs : List Char) : Option (List Char × Bool × List Char) :=
  match cs with
  | '0' :: x :: h :: rest =>
    if (x = 'x' || x = 'X') && isHexChar h then
      let (run, r) := digitRun true (h :: rest)
      let text := '0' :: x :: run
      if separatorsValid true run then some (text.filter (· ≠ '_'), false, r) else none
    else readDecimal cs
  | _ => readDecimal cs
where
  readDecimal (cs : List Char) : Option (List Char × Bool × List Char) :=
    let (whole, r) := digitRun false cs
    let (frac, r, dot) : List Char × List Char × Bool := match r with
      | '.' :: r' => let (f, r'') := digitRun false r'; ('.' :: f, r'', true)
      | _ => ([], r, false)
    let (expo, r, hasExp) : List Char × List Char × Bool := match r with
      | e :: s :: d :: r' =>
        if (e = 'e' || e = 'E') && (s = '+' || s = '-') && d.isDigit then
          let (ds, r'') := digitRun false (d :: r'); ([e, s] ++ ds, r'', true)
        else if (e = 'e' || e = 'E') && s.isDigit then
          let (ds, r'') := digitRun false (s :: d :: r'); (e :: ds, r'', true)
        else ([], r, false)
      | [e, s] =>
        if (e = 'e' || e = 'E') && s.isDigit then ([e, s], [], true) else ([], r, false)
      | _ => ([], r, false)
    let text := whole ++ frac ++ expo
    let sepOk := separatorsValid false whole && separatorsValid false (frac.drop 1) &&
      separatorsValid false (expo.dropWhile fun c => c = 'e' || c = 'E' || c = '+' || c = '-')
    if sepOk then some (text.filter (· ≠ '_'), dot || hasExp, r) else none

/-- The symbols of two characters, then those of one. -/
def twoCharSymbols : List String := ["||", "->", "<=", ">=", "<>", "!=", "==", "<<", ">>"]

def oneCharSymbols : List Char :=
  ['(', ')', ';', ',', '+', '-', '*', '/', '%', '=', '<', '>', '&', '|', '~', '.']

def hexBytes : List Char → List UInt8
  | a :: b :: rest => UInt8.ofNat (hexValue a * 16 + hexValue b) :: hexBytes rest
  | _ => []

/-- The grave accent, which quotes identifiers like a double quote. -/
def graveAccent : Char := Char.ofNat 96

/-- A token with the place of its text: the offsets, in characters, of its first character and
of the character after its last. -/
structure Spanned where
  token : Token
  start : Nat
  stop : Nat

/-- Splits text into tokens, each with its place in the whole text of `total` characters;
nothing when some text is not a token. Each step consumes at least one character, so the length
of the text bounds the steps. -/
def tokenize (total : Nat) : Nat → List Char → List Spanned → Option (List Spanned)
  | 0, _, acc => some acc.reverse
  | _, [], acc => some acc.reverse
  | fuel + 1, c :: rest, acc =>
    let here := total - (rest.length + 1)
    let emit (t : Token) (r : List Char) : List Spanned :=
      { token := t, start := here, stop := total - r.length } :: acc
    if isBlankChar c then tokenize total fuel rest acc
    else match c, rest with
    | '-', '-' :: r => tokenize total fuel (r.dropWhile (· ≠ '\n')) acc
    | '/', '*' :: r => tokenize total fuel (skipBlockComment r) acc
    | '-', '>' :: '>' :: r => tokenize total fuel r (emit (.symbol "->>") r)
    | '\'', r =>
      match readQuoted '\'' true r [] with
      | some (s, r') => tokenize total fuel r' (emit (.string (String.ofList s)) r')
      | none => none
    | '"', r =>
      match readQuoted '"' true r [] with
      | some (s, r') => tokenize total fuel r' (emit (.quoted (String.ofList s)) r')
      | none => none
    | '[', r =>
      match readQuoted ']' false r [] with
      | some (s, r') => tokenize total fuel r' (emit (.quoted (String.ofList s)) r')
      | none => none
    | '?', r =>
      let ds := r.takeWhile Char.isDigit
      let r' := r.drop ds.length
      tokenize total fuel r' (emit (.param (String.ofList ('?' :: ds))) r')
    | '!', '=' :: r => tokenize total fuel r (emit (.symbol "!=") r)
    | _, r =>
      if c = graveAccent then
        match readQuoted graveAccent true r [] with
        | some (s, r') => tokenize total fuel r' (emit (.quoted (String.ofList s)) r')
        | none => none
      else
      if (c = 'x' || c = 'X') && rest.head? = some '\'' then
        let body := (rest.drop 1).takeWhile (· ≠ '\'')
        let after := (rest.drop 1).drop body.length
        if after.head? = some '\'' && body.all isHexChar && body.length % 2 = 0 then
          tokenize total fuel (after.drop 1) (emit (.blob (hexBytes body)) (after.drop 1))
        else none
      else if c = ':' || c = '@' || c = '$' then
        let name := rest.takeWhile isWordChar
        let r' := rest.drop name.length
        if name.isEmpty then none
        else tokenize total fuel r' (emit (.param (String.ofList (c :: name))) r')
      else if c.isDigit || (c = '.' && (rest.head?.map Char.isDigit).getD false) then
        match readNumber (c :: rest) with
        | some (text, isReal, r) =>
          if (r.head?.map isWordChar).getD false then none
          else tokenize total fuel r (emit (.number (String.ofList text) isReal) r)
        | none => none
      else if isWordStart c then
        let w := rest.takeWhile isWordChar
        let r' := rest.drop w.length
        tokenize total fuel r' (emit (.word (String.ofList (c :: w))) r')
      else
        match rest with
        | d :: r =>
          if twoCharSymbols.contains (String.ofList [c, d]) then
            tokenize total fuel r (emit (.symbol (String.ofList [c, d])) r)
          else if oneCharSymbols.contains c then tokenize total fuel rest (emit (.symbol (String.ofList [c])) rest)
          else none
        | [] => if oneCharSymbols.contains c then some (emit (.symbol (String.ofList [c])) []).reverse else none

/-- The tokens of a statement text with their places. -/
def spannedTokensOf (text : String) : Option (List Spanned) :=
  tokenize text.length (text.length + 1) text.toList []

def tokensOf (text : String) : Option (List Token) :=
  (spannedTokensOf text).map (·.map (·.token))

end RosterSync.Database
