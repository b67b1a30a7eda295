import RosterSync.Database.Printf
import RosterSync.Database.Lexer

/-!
Scalar functions of the database.

Each function takes its evaluated arguments; `NULL` arguments give `NULL` unless a function says
otherwise. Texts are handled by characters and byte strings by bytes; upper and lower case are
ASCII only. `LIKE` matches `%` against any run and `_` against one character, ignoring ASCII case
unless told otherwise, with an optional escape character; `GLOB` matches `*`, `?` and bracketed
sets, minding case. Rounding goes through the formatter, as the database does.
-/

-- natural powers take the core instance even where the monoid power is in scope
attribute [local instance (2000)] instPowNat

namespace RosterSync.Database

structure CallContext where
  caseSensitiveLike : Bool
  lastRowid : Int
  changes : Nat
  totalChanges : Nat

/-- How a pattern is matched: its any-run and any-one characters, the set opener, and whether
ASCII case is ignored. -/
structure PatternRules where
  matchAll : Option Char
  matchOne : Option Char
  matchSet : Bool
  noCase : Bool

/-- The result of matching a pattern: a match, no match, or no match at any later start either. -/
inductive MatchResult where
  | matched
  | noMatch
  | noWildcardMatch
deriving DecidableEq

/-- Whether two characters are equal, ignoring ASCII case when asked. -/
def charMatches (noCase : Bool) (c c2 : Char) : Bool :=
  c == c2 || (noCase && c.toNat < 128 && c2.toNat < 128 && asciiLower c == asciiLower c2)

/-- Reads a bracketed set after `[` against a character: whether it matched and the pattern after
`]`; nothing when the set is not closed. -/
def matchSetOf (c : Char) (p : List Char) : Option (Bool × List Char) :=
  let (invert, p) := match p with
    | '^' :: r => (true, r)
    | _ => (false, p)
  let (seen, p) := match p with
    | ']' :: r => (c == ']', r)
    | _ => (false, p)
  let rec go : Nat → List Char → Bool → Nat → Option (Bool × List Char)
    | 0, _, _, _ => none
    | _, [], _, _ => none
    | _ + 1, ']' :: r, seen, _ => some (seen, r)
    | fuel + 1, '-' :: r, seen, prior =>
      match r with
      | c2 :: r' =>
        if c2 != ']' && prior > 0 then
          go fuel r' (seen || (c.toNat ≥ prior && c.toNat ≤ c2.toNat)) 0
        else go fuel r (seen || c == '-') '-'.toNat
      | [] => none
    | fuel + 1, c2 :: r, seen, _ => go fuel r (seen || c == c2) c2.toNat
  match go (p.length + 1) p seen 0 with
  | some (s, rest) => some (s != invert, rest)
  | none => none

def nonEmptyTails : List Char → List (List Char)
  | [] => []
  | x :: xs => (x :: xs) :: nonEmptyTails xs

/-- The suffixes that follow each element satisfying a test, longest first. -/
def tailsAfter (p : Char → Bool) : List Char → List (List Char)
  | [] => []
  | x :: xs => if p x then xs :: tailsAfter p xs else tailsAfter p xs

/-- Matches a pattern against a text. The fuel bounds the work; running out counts as no match. -/
def patternCompare (rules : PatternRules) (escape : Option Char) :
    Nat → List Char → List Char → MatchResult
  | 0, _, _ => .noMatch
  | fuel + 1, p, s =>
    match p with
    | [] => if s.isEmpty then .matched else .noMatch
    | c :: pr =>
      if some c == rules.matchAll then
        -- skip further any-run and any-one characters, each any-one consuming a character
        let rec skip : List Char → List Char → Option (List Char × List Char)
          | q :: qr, t =>
            if some q == rules.matchAll then skip qr t
            else if some q == rules.matchOne then
              match t with
              | _ :: tr => skip qr tr
              | [] => none
            else some (q :: qr, t)
          | [], t => some ([], t)
        match skip pr s with
        | none => .noWildcardMatch
        | some ([], _) => .matched
        | some (q :: qr, t) =>
          if rules.matchSet && q == '[' then
            let tried := (nonEmptyTails t).findSome? fun x =>
              match patternCompare rules escape fuel (q :: qr) x with
              | .noMatch => none
              | r => some r
            tried.getD .noWildcardMatch
          else
            let (lit, rest) : Option (Char × List Char) × List Char :=
              if some q == escape && !rules.matchSet then
                match qr with
                | e :: er => (some (e, er), er)
                | [] => (none, [])
              else (some (q, qr), qr)
            match lit with
            | none => .noWildcardMatch
            | some (lc, _) =>
              let found := (tailsAfter (charMatches rules.noCase lc) t).findSome? fun xs =>
                match patternCompare rules escape fuel rest xs with
                | .noMatch => none
                | r => some r
              found.getD .noWildcardMatch
      else if rules.matchSet && c == '[' then
        match s with
        | [] => .noMatch
        | x :: xs =>
          match matchSetOf x pr with
          | some (true, pr') => patternCompare rules escape fuel pr' xs
          | _ => .noMatch
      else if some c == escape && !rules.matchSet then
        match pr with
        | [] => .noMatch
        | e :: er =>
          match s with
          | x :: xs => if charMatches rules.noCase e x then patternCompare rules escape fuel er xs else .noMatch
          | [] => .noMatch
      else
        match s with
        | [] => .noMatch
        | x :: xs =>
          if charMatches rules.noCase c x || some c == rules.matchOne then
            patternCompare rules escape fuel pr xs
          else .noMatch

def likeRules (caseSensitive : Bool) : PatternRules :=
  { matchAll := some '%', matchOne := some '_', matchSet := false, noCase := !caseSensitive }

def globRules : PatternRules :=
  { matchAll := some '*', matchOne := some '?', matchSet := true, noCase := false }

def patternMatches (rules : PatternRules) (escape : Option Char) (pattern text : List Char) : Bool :=
  let p := untilNul pattern
  let s := untilNul text
  patternCompare rules escape ((p.length + 2) * (s.length + 2) + 4) p s == .matched

/-- `like(pattern, text [, escape])`. An escape that is the any-run or any-one character turns
that character into a plain one. -/
def likeValue (caseSensitive : Bool) (pattern text : Datum) (escape : Option Datum) :
    Except String Datum := do
  if ((pattern.text?.map String.utf8ByteSize).getD 0) > 50000 then
    throw "LIKE or GLOB pattern too complex"
  let rules := likeRules caseSensitive
  let (rules, esc) ← match escape with
    | none => pure (rules, none)
    | some e =>
      let some es := e.text? | return .null
      match es.toList with
      | [ec] =>
        let rules := if some ec == rules.matchAll then { rules with matchAll := none } else rules
        let rules := if some ec == rules.matchOne then { rules with matchOne := none } else rules
        pure (rules, some ec)
      | _ => throw "ESCAPE expression must be a single character"
  let some p := pattern.text? | return .null
  let some s := text.text? | return .null
  return .integer (if patternMatches rules esc p.toList s.toList then 1 else 0)

def globValue (pattern text : Datum) : Except String Datum := do
  if ((pattern.text?.map String.utf8ByteSize).getD 0) > 50000 then
    throw "LIKE or GLOB pattern too complex"
  let some p := pattern.text? | return .null
  let some s := text.text? | return .null
  return .integer (if patternMatches globRules none p.toList s.toList then 1 else 0)

def hexText (bytes : List UInt8) : String :=
  let digit (n : Nat) : Char := "0123456789ABCDEF".toList.getD n '0'
  String.ofList (bytes.flatMap fun b => [digit (b.toNat / 16), digit (b.toNat % 16)])

/-- The characters of a value as text, `none` for `NULL`. -/
def Datum.textChars? (d : Datum) : Option (List Char) := d.text?.map String.toList

def quoteValue (d : Datum) : String :=
  match d with
  | .null => "NULL"
  | .integer i => i64Text i
  | .real x =>
    let t := ({ storedFormat with zeroPad := true } : FloatFormat).render x
    if (scanReal t.toList).1.numEq x then t
    else ({ storedFormat with conversion := 'e', precision := some 20, zeroPad := true } : FloatFormat).render x
  | .text s => "'" ++ String.ofList (s.toList.takeWhile (· ≠ Char.ofNat 0) |>.flatMap fun c => if c = '\'' then ['\'', '\''] else [c]) ++ "'"
  | .blob b => "X'" ++ hexText b ++ "'"

/-- A value read as an integer and cut to its low 32 bits, as the functions that take a small
count or place read their arguments. -/
def Datum.int32Value (d : Datum) : Int := toInt32 d.intValue

/-- `substr(x, start [, length])` over a list of units (characters or bytes). -/
def substrUnits {α : Type} (units : List α) (p1 : Int) (p2? : Option Int) : List α :=
  let len : Int := units.length
  let (p2, negP2) : Int × Bool := match p2? with
    | some p2 => if p2 < 0 then (-p2, true) else (p2, false)
    | none => (1000000000, false)
  let (p1, p2) : Int × Int :=
    if p1 < 0 then
      let p1 := p1 + len
      if p1 < 0 then (0, max 0 (p2 + p1)) else (p1, p2)
    else if p1 > 0 then (p1 - 1, p2)
    else if p2 > 0 then (0, p2 - 1)
    else (0, p2)
  let (p1, p2) : Int × Int :=
    if negP2 then
      let p1' := p1 - p2
      if p1' < 0 then (0, p2 + p1') else (p1', p2)
    else (p1, p2)
  (units.drop p1.toNat).take p2.toNat

/-- The characters of bytes as the database steps through them: a byte from `0xC0` up with the
continuation bytes after it, any other byte alone. Each step takes at least one byte. -/
def byteCharacters : Nat → List UInt8 → List (List UInt8)
  | 0, _ => []
  | _, [] => []
  | fuel + 1, b :: rest =>
    if b.toNat ≥ 0xC0 then
      let tail := rest.takeWhile fun c => 0x80 ≤ c.toNat && c.toNat < 0xC0
      (b :: tail) :: byteCharacters fuel (rest.drop tail.length)
    else [b] :: byteCharacters fuel rest

/-- The bytes of a text up to its first NUL, read as characters. -/
def textCharacters (s : String) : List (List UInt8) :=
  let bs := (textBytes s).takeWhile (· ≠ 0)
  byteCharacters (bs.length + 1) bs

def substrValue (x start : Datum) (length? : Option Datum) : Datum :=
  match x, start, length? with
  | _, .null, _ => .null
  | _, _, some .null => .null
  | .null, _, _ => .null
  | .blob b, _, _ => .blob (substrUnits b start.int32Value (length?.map Datum.int32Value))
  | _, _, _ =>
    match x.textChars? with
    | none => .null
    | some _ =>
      let units := textCharacters ((x.text?).getD "")
      .text (bytesText (substrUnits units start.int32Value (length?.map Datum.int32Value)).flatten)

/-- Removes characters of a set (each given by its bytes, first match first) from the front of
bytes for as long as one of them is there. -/
def dropCharacters (set : List (List UInt8)) : Nat → List UInt8 → List UInt8
  | 0, bs => bs
  | fuel + 1, bs =>
    match set.find? fun c => !c.isEmpty && c.isPrefixOf bs with
    | some c => dropCharacters set fuel (bs.drop c.length)
    | none => bs

/-- `trim`, `ltrim` or `rtrim` of a text with a set of characters: the whole text, NULs too,
loses characters of the set at the chosen ends. The set is read up to its first NUL. -/
def trimText (set : String) (left right : Bool) (s : String) : Datum :=
  let chars := textCharacters set
  let bs := textBytes s
  let bs := if left then dropCharacters chars (bs.length + 1) bs else bs
  let bs :=
    if right then (dropCharacters (chars.map List.reverse) (bs.length + 1) bs.reverse).reverse
    else bs
  .text (bytesText bs)

/-- Replaces every occurrence of a non-empty pattern, left to right. -/
def replaceAll {α : Type} [BEq α] (pattern rep : List α) : Nat → List α → List α
  | 0, cs => cs
  | _, [] => []
  | fuel + 1, c :: cs =>
    if pattern.isPrefixOf (c :: cs) then rep ++ replaceAll pattern rep fuel ((c :: cs).drop pattern.length)
    else c :: replaceAll pattern rep fuel cs

/-- The 1-based position of the first occurrence of a needle, or 0. -/
def positionOf {α : Type} [BEq α] (needle : List α) : Nat → List α → Nat → Nat
  | 0, _, _ => 0
  | fuel + 1, hay, i =>
    if needle.isPrefixOf hay then i
    else match hay with
      | [] => 0
      | _ :: rest => positionOf needle fuel rest (i + 1)

/-- The 1-based character position of the first occurrence of a needle in the bytes of a text,
or 0; only places where a character starts are tried. -/
def characterPosition (needle : List UInt8) : Nat → List UInt8 → Nat → Nat
  | 0, _, _ => 0
  | fuel + 1, hay, i =>
    if needle.length > hay.length then 0
    else if needle.isPrefixOf hay then i
    else
      let rest := (hay.drop 1).dropWhile fun b => 0x80 ≤ b.toNat && b.toNat < 0xC0
      characterPosition needle fuel rest (i + 1)

/-- `instr(haystack, needle)`: by bytes between two blobs, else by the characters of the two
texts, NULs included. -/
def instrValue (h n : Datum) : Datum :=
  match h, n with
  | .null, _ => .null
  | _, .null => .null
  | .blob hb, .blob nb => .integer (if nb.isEmpty then 1 else positionOf nb (hb.length + 1) hb 1)
  | _, _ =>
    let hs := (h.bytes?).getD []
    let ns := (n.bytes?).getD []
    if ns.isEmpty then .integer 1
    else .integer (characterPosition ns (hs.length + 1) hs 1)

/-- The soundex code of a text, by its bytes. -/
def soundexText (s : String) : String :=
  let code (b : Nat) : Nat :=
    let c := asciiLower (Char.ofNat (b % 128))
    if "bfpv".toList.contains c then 1
    else if "cgjkqsxz".toList.contains c then 2
    else if "dt".toList.contains c then 3
    else if c == 'l' then 4
    else if "mn".toList.contains c then 5
    else if c == 'r' then 6 else 0
  let bytes := (textBytes s).map (·.toNat) |>.takeWhile (· ≠ 0)
  let isAlpha (b : Nat) : Bool := (65 ≤ b && b ≤ 90) || (97 ≤ b && b ≤ 122)
  match bytes.dropWhile (fun b => !isAlpha b) with
  | [] => "?000"
  | first :: rest =>
    let rec go : List Nat → Nat → List Char → List Char
      | [], _, acc => acc
      | b :: bs, prev, acc =>
        if acc.length ≥ 3 then acc
        else
          let c := code b
          if c > 0 then
            if c != prev then go bs c (acc ++ [Char.ofNat (48 + c)]) else go bs prev acc
          else go bs 0 acc
    let digits := go rest (code first) []
    String.ofList (asciiUpper (Char.ofNat first) :: digits ++ List.replicate (3 - digits.length) '0')

/-- `unhex(text [, ignored])`: the bytes of hex digit pairs, skipping ignorable characters
between pairs; `NULL` when something else appears. -/
def unhexValue (x : Datum) (ignore : Option Datum) : Datum :=
  match x.textChars?, (match ignore with | some i => i.textChars? | none => some []) with
  | some cs, some pass =>
    let rec go : List Char → List UInt8 → Option (List UInt8)
      | [], acc => some acc.reverse
      | c :: rest, acc =>
        if isHexChar c then
          match rest with
          | d :: rest' => if isHexChar d then go rest' (UInt8.ofNat (hexValue c * 16 + hexValue d) :: acc) else none
          | [] => none
        else if pass.contains c then go rest acc
        else none
    match go (untilNul cs) [] with
    | some b => .blob b
    | none => .null
  | _, _ => .null

/-- `round(x [, digits])`: half away from zero without digits, through fixed formatting with
them; magnitudes from `2^52` on have nothing to round. -/
def roundValue (x : Datum) (digits : Option Datum) : Datum :=
  match digits with
  | some .null => .null
  | _ =>
    match x with
    | .null => .null
    | _ =>
      let n : Int := match digits with
        | some d => max 0 (min 30 d.int32Value)
        | none => 0
      let r := x.realValue
      let big := Binary64.ofInt (2 ^ (52 : Nat))
      if r.lt big.negate || big.lt r then .real r
      else if n = 0 then
        let half := Binary64.ofRatio (r.lt (Binary64.zero false)) 1 2
        .real (Binary64.ofInt (r.add half).truncate)
      else
        let f : FloatFormat := { storedFormat with conversion := 'f', precision := some n.toNat }
        .real (scanReal (f.render r).toList).1

/-- `abs(x)`: integers stay integers (the smallest overflows), other values become doubles. -/
def absValue (x : Datum) : Except String Datum :=
  match x with
  | .null => .ok .null
  | .integer i => if i = minI64 then .error "integer overflow" else .ok (.integer i.natAbs)
  | _ =>
    let r := x.realValue
    .ok (.real (if r.lt (Binary64.zero false) then r.negate else r))

/-- `sign(x)`: the sign of a number, `NULL` for what is not one. -/
def signValue (x : Datum) : Datum :=
  let num : Option Binary64 := match x with
    | .integer i => some (Binary64.ofInt i)
    | .real r => some r
    | .text s => match numericText false s with
      | .integer i => some (Binary64.ofInt i)
      | .real r => some r
      | _ => none
    | _ => none
  match num with
  | some r => .integer (if r.lt (Binary64.zero false) then -1 else if (Binary64.zero false).lt r then 1 else 0)
  | none => .null

/-- The UTF-8 bytes of a code point below `0x110000`, a surrogate written like any other. -/
def codePointBytes (c : Nat) : List UInt8 :=
  (if c < 0x80 then [c]
  else if c < 0x800 then [0xC0 + c / 64, 0x80 + c % 64]
  else if c < 0x10000 then [0xE0 + c / 4096, 0x80 + c / 64 % 64, 0x80 + c % 64]
  else [0xF0 + c / 262144, 0x80 + c / 4096 % 64, 0x80 + c / 64 % 64, 0x80 + c % 64]).map
    UInt8.ofNat

/-- `char(codes…)`: the text of code points, out-of-range ones as U+FFFD; a surrogate gives its
three bytes, which are not UTF-8. -/
def charValue (args : List Datum) : Datum :=
  .text (bytesText (args.flatMap fun a =>
    let x := a.intValue
    codePointBytes (if x < 0 || x > 0x10ffff then 0xfffd else x.toNat)))

/-- The code point the bytes of a text start with, read leniently: a byte below `0xC0` is itself;
a higher one keeps its low bits (by its kind) and takes in every continuation byte after it, in
32 bits. What is below `0x80`, a surrogate, or `0xFFFE` or `0xFFFF` becomes U+FFFD, and the
result is read as a signed 32-bit number. -/
def leadingCodePoint (b : UInt8) (rest : List UInt8) : Int :=
  let x := b.toNat
  if x < 0xC0 then x else
  let lead := if x < 0xE0 then x - 0xC0 else if x < 0xF0 then x - 0xE0 else if x < 0xF8 then x - 0xF0
    else if x < 0xFC then x - 0xF8 else if x < 0xFE then x - 0xFC else 0
  let conts := rest.takeWhile fun c => 0x80 ≤ c.toNat && c.toNat < 0xC0
  let c := conts.foldl (fun acc d => (acc * 64 + (d.toNat - 0x80)) % 2 ^ (32 : Nat)) lead
  let c := if c < 0x80 || c / 0x800 = 0xD800 / 0x800 || c / 2 = 0xFFFE / 2 then 0xFFFD else c
  toInt32 c

/-- Applies a function to one text argument, `NULL` giving `NULL`. -/
def onText (x : Datum) (f : String → Datum) : Datum :=
  match x.text? with
  | some s => f s
  | none => .null

/-- Counts characters in bytes the database's way: a byte from `0xC0` up starts a character
together with the continuation bytes after it, and every other byte is a character of its own.
The flag tells whether the bytes so far end in such a start. -/
def countCharBytes : Bool → List UInt8 → Nat
  | _, [] => 0
  | afterLead, b :: rest =>
    if afterLead && 0x80 ≤ b.toNat && b.toNat < 0xC0 then countCharBytes true rest
    else 1 + countCharBytes (b.toNat ≥ 0xC0) rest

/-- The number of characters of a text up to its first NUL. -/
def charLength (s : String) : Nat :=
  if hasRawBytes s then countCharBytes false ((textBytes s).takeWhile (· ≠ 0))
  else (untilNul s.toList).length

/-- A scalar function of fixed arity applied to evaluated arguments; `none` when the name and
argument count name no such function. The collation is the one the arguments carry. -/
def scalarFunction (ctx : CallContext) (coll : Collation) (name : String) (args : List Datum) :
    Option (Except String Datum) :=
  match name, args with
  | "abs", [x] => some (absValue x)
  | "changes", [] => some (.ok (.integer ctx.changes))
  | "total_changes", [] => some (.ok (.integer ctx.totalChanges))
  | "last_insert_rowid", [] => some (.ok (.integer ctx.lastRowid))
  | "char", xs => some (.ok (charValue xs))
  | "concat", x :: xs => some (.ok (.text (String.join ((x :: xs).filterMap Datum.text?))))
  | "concat_ws", sep :: x :: xs =>
    some (.ok (match sep.text? with
      | none => .null
      | some s => .text (s.intercalate (((x :: xs).filterMap Datum.text?).filter (!·.isEmpty)))))
  | "format", f :: xs => some (.ok (printfValue f xs))
  | "printf", f :: xs => some (.ok (printfValue f xs))
  | "format", [] => some (.ok .null)
  | "printf", [] => some (.ok .null)
  | "glob", [p, s] => some (globValue p s)
  | "like", [p, s] => some (likeValue ctx.caseSensitiveLike p s none)
  | "like", [p, s, e] => some (likeValue ctx.caseSensitiveLike p s (some e))
  | "hex", [x] => some (.ok (.text (hexText (x.bytes?.getD []))))
  | "unhex", [x] => some (.ok (unhexValue x none))
  | "unhex", [x, y] => some (.ok (unhexValue x (some y)))
  | "instr", [h, n] => some (.ok (instrValue h n))
  | "length", [x] => some (.ok (match x with
      | .null => .null
      | .text s => .integer (charLength s)
      | .blob b => .integer b.length
      | d => .integer ((d.text?.getD "").utf8ByteSize)))
  | "octet_length", [x] => some (.ok (match x.bytes? with
      | some b => .integer b.length
      | none => .null))
  | "likely", [x] => some (.ok x)
  | "unlikely", [x] => some (.ok x)
  | "likelihood", [x, _] => some (.ok x)
  | "lower", [x] => some (.ok (onText x fun s => .text (String.ofList (s.toList.map asciiLower))))
  | "upper", [x] => some (.ok (onText x fun s => .text (String.ofList (s.toList.map asciiUpper))))
  | "ltrim", [x] => some (.ok (onText x (trimText " " true false)))
  | "rtrim", [x] => some (.ok (onText x (trimText " " false true)))
  | "trim", [x] => some (.ok (onText x (trimText " " true true)))
  | "ltrim", [x, y] => some (.ok (onText x fun s => onText y fun t => trimText t true false s))
  | "rtrim", [x, y] => some (.ok (onText x fun s => onText y fun t => trimText t false true s))
  | "trim", [x, y] => some (.ok (onText x fun s => onText y fun t => trimText t true true s))
  | "max", x :: y :: zs =>
    some (.ok (if (x :: y :: zs).any (· == .null) then .null
      else (y :: zs).foldl (fun m v => if Datum.compareWith coll v m == .gt then v else m) x))
  | "min", x :: y :: zs =>
    some (.ok (if (x :: y :: zs).any (· == .null) then .null
      else (y :: zs).foldl (fun m v => if Datum.compareWith coll v m != .gt then v else m) x))
  | "nullif", [x, y] => some (.ok (if x != .null && y != .null && Datum.compareWith coll x y == .eq then .null else x))
  | "quote", [x] => some (.ok (.text (quoteValue x)))
  | "random", [] => some (.ok (.integer 0))
  | "randomblob", [n] =>
    some (if n.intValue > (formatLimit : Int) then .error "string or blob too big"
      else .ok (.blob (List.replicate (max 1 n.intValue).toNat 0)))
  | "zeroblob", [n] =>
    some (if n.intValue > (formatLimit : Int) then .error "string or blob too big"
      else .ok (.blob (List.replicate (max 0 n.intValue).toNat 0)))
  | "replace", [x, p, r] =>
    some (.ok (match x.text?, p.text? with
      | some s, some ps =>
        let pb := textBytes ps
        if pb.head? == some 0 || pb.isEmpty then .text s
        else match r.text? with
          | some rs =>
            let sb := textBytes s
            .text (bytesText (replaceAll pb (textBytes rs) (sb.length + 1) sb))
          | none => .null
      | _, _ => .null))
  | "round", [x] => some (.ok (roundValue x none))
  | "round", [x, n] => some (.ok (roundValue x (some n)))
  | "sign", [x] => some (.ok (signValue x))
  | "soundex", [x] => some (.ok (.text (soundexText ((x.text?).getD ""))))
  | "sqlite_version", [] => some (.ok (.text "3.46.0"))
  | "substr", [x, s] => some (.ok (substrValue x s none))
  | "substr", [x, s, n] => some (.ok (substrValue x s (some n)))
  | "substring", [x, s] => some (.ok (substrValue x s none))
  | "substring", [x, s, n] => some (.ok (substrValue x s (some n)))
  | "typeof", [x] => some (.ok (.text x.typeName))
  | "unicode", [x] => some (.ok (match x.bytes? with
      | some (b :: rest) => if b = 0 then .null else .integer (leadingCodePoint b rest)
      | _ => .null))
  | _, _ => none

end RosterSync.Database
