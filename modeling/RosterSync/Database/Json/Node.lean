import RosterSync.Database.Datum
import RosterSync.Database.Lexer

/-!
JSON values inside the database.

A JSON value keeps the text of its numbers and strings as they were read, so that writing it
back gives the database's text: integers and reals as written, hexadecimal integers in decimal,
reals with a bare point completed by a zero. A string's text is one of four kinds: without
escapes, with standard escapes, with the escapes of JSON5 (or raw control characters and
quotes), or SQL text that is escaped when written. Strings are decoded only when a value is
taken out as SQL, and object labels are compared by their decoded characters, up to the first
zero character.
-/

-- natural powers take the core instance even where the monoid power is in scope
attribute [local instance (2000)] instPowNat

namespace RosterSync.Database

/-- How the text of a JSON string is held. -/
inductive JText where
  /-- Text without any escape. -/
  | plain
  /-- Text with standard JSON escapes. -/
  | escaped
  /-- Text with JSON5 escapes, raw control characters or double quotes. -/
  | extended
  /-- SQL text, escaped when written. -/
  | raw
deriving DecidableEq, Repr, Inhabited

/-- Whether text of this kind stands for its own characters, without escapes to decode. -/
def JText.isLiteral : JText → Bool
  | .plain | .raw => true
  | .escaped | .extended => false

/-- A label of an object member: the kind of its text and the text. -/
abbrev JLabel := JText × String

/-- A JSON value. Numbers hold their text: `int` a decimal integer, `hexInt` a hexadecimal one,
`real` a decimal real and `looseReal` a real with nothing on one side of its point. -/
inductive JNode where
  | null
  | yes
  | no
  | int (text : String)
  | hexInt (text : String)
  | real (text : String)
  | looseReal (text : String)
  | str (kind : JText) (text : String)
  | arr (items : List JNode)
  | obj (members : List (JLabel × JNode))
deriving Inhabited

/-- The code that an escape which does not stand for a character decodes to. -/
def invalidCode : Nat := 0x99999

/-- Whether a character separates lines in JSON5: U+2028 or U+2029. -/
def isLineSeparator (c : Char) : Bool := c.toNat = 0x2028 || c.toNat = 0x2029

def hexDigitsValue (cs : List Char) : Nat := cs.foldl (fun acc d => acc * 16 + hexValue d) 0

/-- The number of characters at the front of string text that continue a line: backslashes
followed by a line end or a line separator. -/
def continuationLength : List Char → Nat
  | '\\' :: '\n' :: rest => 2 + continuationLength rest
  | '\\' :: '\r' :: '\n' :: rest => 3 + continuationLength rest
  | '\\' :: '\r' :: rest => 2 + continuationLength rest
  | '\\' :: c :: rest => if isLineSeparator c then 2 + continuationLength rest else 0
  | _ => 0

/-- The escape at the front of string text, which starts with a backslash: the code it stands
for and the number of characters it takes. A pair of `\u` escapes for a surrogate pair stands
for one code; a line continuation stands for what follows it, or for zero at the end. -/
def escapeAt : Nat → List Char → Nat × Nat
  | 0, cs => (invalidCode, cs.length)
  | fuel + 1, cs =>
    match cs with
    | '\\' :: c :: rest =>
      if c = 'u' then
        if cs.length < 6 then (invalidCode, cs.length)
        else
          let v := hexDigitsValue (rest.take 4)
          let more := rest.drop 4
          let lo := hexDigitsValue ((more.drop 2).take 4)
          if v / 1024 = 0xd800 / 1024 && cs.length ≥ 12 && more.take 2 = ['\\', 'u'] &&
              lo / 1024 = 0xdc00 / 1024 then
            ((v % 1024) * 1024 + lo % 1024 + 0x10000, 12)
          else (v, 6)
      else if c = 'b' then (8, 2)
      else if c = 'f' then (12, 2)
      else if c = 'n' then (10, 2)
      else if c = 'r' then (13, 2)
      else if c = 't' then (9, 2)
      else if c = 'v' then (11, 2)
      else if c = '0' then (0, 2)
      else if c = '\'' || c = '"' || c = '/' || c = '\\' then (c.toNat, 2)
      else if c = 'x' then
        if cs.length < 4 then (invalidCode, cs.length) else (hexDigitsValue (rest.take 2), 4)
      else if c = '\r' || c = '\n' || (0x2000 ≤ c.toNat && c.toNat < 0x3000) then
        let skip := continuationLength cs
        if skip = 0 then (invalidCode, cs.length)
        else if skip = cs.length then (0, skip)
        else
          match cs.drop skip with
          | '\\' :: more =>
            let (v, k) := escapeAt fuel ('\\' :: more)
            (v, skip + k)
          | d :: _ => (d.toNat, skip + 1)
          | [] => (0, skip)
      else (invalidCode, 2)
    | _ => (invalidCode, cs.length)

/-- The codes of the characters that escaped string text stands for. -/
def unescapeCodes (cs : List Char) : List Nat := go cs.length cs
where
  go : Nat → List Char → List Nat
  | 0, _ => []
  | _, [] => []
  | fuel + 1, c :: rest =>
    if c = '\\' then
      let (v, k) := escapeAt (rest.length + 1) (c :: rest)
      v :: go fuel (rest.drop (k - 1))
    else c.toNat :: go fuel rest

/-- The characters of decoded codes. A lone surrogate keeps its three bytes, which are not
UTF-8. -/
def codeChars (vs : List Nat) : List Char :=
  vs.flatMap fun v =>
    if 0xd800 ≤ v && v < 0xe000 then
      [rawByteChar (0xe0 + v / 4096), rawByteChar (0x80 + v / 64 % 64), rawByteChar (0x80 + v % 64)]
    else [Char.ofNat v]

/-- The codes of the characters that a JSON string's text stands for. -/
def JText.codes (kind : JText) (text : String) : List Nat :=
  if kind.isLiteral then text.toList.map Char.toNat else unescapeCodes text.toList

/-- Whether two labels name the same member: literal texts must be equal, and otherwise the
decoded characters agree up to the first zero. -/
def labelsMatch (a b : JLabel) : Bool :=
  if a.1.isLiteral && b.1.isLiteral then a.2 == b.2
  else (a.1.codes a.2).takeWhile (· ≠ 0) == (b.1.codes b.2).takeWhile (· ≠ 0)

/-- The escape of a control character: a short escape where JSON has one, else `\u00XX`. -/
def controlEscape (c : Char) : List Char :=
  let hex := "0123456789abcdef".toList
  if c = '\n' then ['\\', 'n']
  else if c = '\r' then ['\\', 'r']
  else if c = '\t' then ['\\', 't']
  else if c.toNat = 8 then ['\\', 'b']
  else if c.toNat = 12 then ['\\', 'f']
  else ['\\', 'u', '0', '0', hex.getD (c.toNat / 16) '0', hex.getD (c.toNat % 16) '0']

/-- The escaped text of a string's characters: quotes, backslashes and control characters. -/
def escapeJson (s : String) : String :=
  String.ofList (s.toList.flatMap fun c =>
    if c = '"' then ['\\', '"']
    else if c = '\\' then ['\\', '\\']
    else if c.toNat < 32 then controlEscape c
    else [c])

/-- Standard JSON text for JSON5 string text: quotes and control characters escaped, JSON5
escapes written the standard way and line continuations dropped. -/
def standardText (cs : List Char) : List Char := go cs.length cs
where
  go : Nat → List Char → List Char
  | 0, _ => []
  | _, [] => []
  | fuel + 1, c :: rest =>
    if c = '"' then '\\' :: '"' :: go fuel rest
    else if c.toNat < 32 then controlEscape c ++ go fuel rest
    else if c = '\\' then
      match rest with
      | '\'' :: more => '\'' :: go fuel more
      | 'v' :: more => "\\u0009".toList ++ go fuel more
      | 'x' :: a :: b :: more => ['\\', 'u', '0', '0', a, b] ++ go fuel more
      | '0' :: more => "\\u0000".toList ++ go fuel more
      | '\r' :: '\n' :: more => go fuel more
      | '\r' :: more => go fuel more
      | '\n' :: more => go fuel more
      | d :: more => if isLineSeparator d then go fuel more else '\\' :: d :: go fuel more
      | [] => []
    else c :: go fuel rest

/-- The JSON text of a string of a given kind, in quotes. -/
def stringText (kind : JText) (text : String) : String :=
  match kind with
  | .plain | .escaped => "\"" ++ text ++ "\""
  | .extended => "\"" ++ String.ofList (standardText text.toList) ++ "\""
  | .raw => "\"" ++ escapeJson text ++ "\""

/-- The decimal text of a hexadecimal integer's text (`0x…`, maybe after a sign); past sixty
bits it is the infinite `9.0e999`. -/
def hexIntText (t : String) : String :=
  let (sign, cs) : String × List Char := match t.toList with
    | '-' :: r => ("-", r)
    | '+' :: r => ("", r)
    | r => ("", r)
  let (u, overflow) := (cs.drop 2).foldl (fun (acc : Nat × Bool) d =>
    if acc.2 || acc.1 / 2 ^ (60 : Nat) ≠ 0 then (acc.1, true) else (acc.1 * 16 + hexValue d, false)) (0, false)
  sign ++ (if overflow then "9.0e999" else toString u)

/-- The text of a real with nothing on one side of its point: a zero written there. -/
def looseRealText (t : String) : String :=
  let (sign, cs) : List Char × List Char := match t.toList with
    | '-' :: r => (['-'], r)
    | r => ([], r)
  let lead := if cs.head? = some '.' then ['0'] else []
  let rec fill : List Char → List Char
    | [] => []
    | '.' :: rest =>
      if (rest.head?.map Char.isDigit).getD false then '.' :: fill rest else '.' :: '0' :: fill rest
    | c :: rest => c :: fill rest
  String.ofList (sign ++ lead ++ fill cs)

mutual

def JNode.render : JNode → String
  | .null => "null"
  | .yes => "true"
  | .no => "false"
  | .int t => t
  | .hexInt t => hexIntText t
  | .real t => t
  | .looseReal t => looseRealText t
  | .str kind t => stringText kind t
  | .arr items => "[" ++ renderItems items ++ "]"
  | .obj members => "\x7b" ++ renderMembers members ++ "\x7d"

def renderItems : List JNode → String
  | [] => ""
  | x :: rest => x.render ++ (if rest.isEmpty then "" else "," ++ renderItems rest)

def renderMembers : List (JLabel × JNode) → String
  | [] => ""
  | ((kind, k), v) :: rest =>
    stringText kind k ++ ":" ++ v.render ++ (if rest.isEmpty then "" else "," ++ renderMembers rest)

end

mutual

/-- The text of a JSON value laid out on lines: each item or member of a non-empty array or
object on a line of its own, indented by one more `indent` than its container, and labels
followed by `": "`. -/
def JNode.pretty (indent : String) (level : Nat) : JNode → String
  | .arr [] => "[]"
  | .obj [] => "\x7b\x7d"
  | .arr items =>
    "[\n" ++ prettyItems indent (level + 1) items ++ "\n" ++ String.join (List.replicate level indent) ++ "]"
  | .obj members =>
    "\x7b\n" ++ prettyMembers indent (level + 1) members ++ "\n" ++
      String.join (List.replicate level indent) ++ "\x7d"
  | v => v.render

/-- Array items laid out on lines at a level. -/
def prettyItems (indent : String) (level : Nat) : List JNode → String
  | [] => ""
  | x :: rest =>
    String.join (List.replicate level indent) ++ x.pretty indent level ++
      (if rest.isEmpty then "" else ",\n" ++ prettyItems indent level rest)

/-- Object members laid out on lines at a level. -/
def prettyMembers (indent : String) (level : Nat) : List (JLabel × JNode) → String
  | [] => ""
  | ((kind, k), v) :: rest =>
    String.join (List.replicate level indent) ++ stringText kind k ++ ": " ++ v.pretty indent level ++
      (if rest.isEmpty then "" else ",\n" ++ prettyMembers indent level rest)

end

def JNode.typeName : JNode → String
  | .null => "null"
  | .yes => "true"
  | .no => "false"
  | .int _ | .hexInt _ => "integer"
  | .real _ | .looseReal _ => "real"
  | .str _ _ => "text"
  | .arr _ => "array"
  | .obj _ => "object"

/-- Whether a JSON value is an array or an object. -/
def JNode.isContainer : JNode → Bool
  | .arr _ | .obj _ => true
  | _ => false


/-- Reads an unsigned integer text, decimal or `0x` hexadecimal, as a 64-bit integer. The code is
`0` when it fits, `1` when other text follows, `2` when it does not fit and `3` for exactly
`2^63`; hexadecimal digits wrap around. -/
def decOrHexInteger (cs : List Char) : Int × Int :=
  match cs with
  | '0' :: x :: rest =>
    if x = 'x' || x = 'X' then
      let digits := (rest.dropWhile (· = '0')).takeWhile isHexChar
      let after := (rest.dropWhile (· = '0')).drop digits.length
      let value := wrapI64 (hexDigitsValue digits % 2 ^ (64 : Nat))
      (value, if digits.length > 16 then 2 else if after.isEmpty then 0 else 1)
    else scanInteger cs
  | _ => scanInteger cs

/-- The SQL value of a JSON integer's text: an integer when it fits, else the nearest double;
an error for text that is no number. -/
def jsonIntegerDatum (t : String) : Except Unit Datum :=
  let cs := t.toList
  let (neg, body) : Bool × List Char := match cs with
    | '-' :: r => (true, r)
    | r => (false, r)
  if cs.isEmpty || (neg && body.isEmpty) then .error ()
  else
    let (v, code) := decOrHexInteger body
    if code = 0 then .ok (.integer (if neg then wrapI64 (-v) else v))
    else if code = 3 && neg then .ok (.integer minI64)
    else if code = 1 then .error ()
    else
      let (x, kind) := scanReal cs
      if kind ≤ 0 then .error () else .ok (.real x)

/-- The SQL value of a JSON real's text; an error for text that is no number. -/
def jsonRealDatum (t : String) : Except Unit Datum :=
  let (x, kind) := scanReal t.toList
  if t.isEmpty || kind ≤ 0 then .error () else .ok (.real x)

/-- The SQL value of a JSON value: `null` is NULL, booleans are `1` and `0`, numbers are read
from their text, strings are decoded, and arrays and objects are their JSON text. An error
marks a number whose text is no number. -/
def JNode.toDatum : JNode → Except Unit Datum
  | .null => .ok .null
  | .yes => .ok (.integer 1)
  | .no => .ok (.integer 0)
  | .int t | .hexInt t => jsonIntegerDatum t
  | .real t | .looseReal t => jsonRealDatum t
  | .str kind t =>
    .ok (.text (if kind.isLiteral then t else String.ofList (codeChars (unescapeCodes t.toList))))
  | v => .ok (.text v.render)

end RosterSync.Database
