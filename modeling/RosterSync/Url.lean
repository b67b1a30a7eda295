import RosterSync.Token

/-!
URLs as the URL Standard parses them.

The HTTP library of the record store's clients parses each request's URL text with the URL
Standard's basic URL parser. `Parser` stands for it, and theorems about requests take it as a
parameter with the behaviour they rely on as a hypothesis. `standard` states that parser for the
URLs the clients build: URLs of a special scheme other than `file` (`ftp`, `http`, `https`, `ws`,
`wss`); any other text answers none.

The input is cleaned first: C0 controls and spaces are trimmed from both ends, and tabs and
newlines are dropped everywhere. The scheme runs to the first `:` and is lowercased; the slashes
after it are skipped; the authority runs to the first `/`, `\`, `?` or `#`, and must not be
empty. After one slash the path state reads segments: `/` and `\` end a segment, a `..` segment
drops the segment before it and a `.` segment adds none (each adds an empty segment when no
slash follows it), and each code point of the path percent-encode set is written as `%` and two
hex digits per UTF-8 byte. The query runs from `?` to the first `#`, the fragment from `#` to the
end. The authority is kept as text: host parsing (domain names, IP addresses, ports) is not
modelled. The percent-encode sets are those of the URL library the clients link.
-/

namespace RosterSync.Url

/-- A URL of a special scheme, as the parser leaves it: the path as percent-encoded segments. -/
structure Parsed where
  scheme : String
  authority : String
  path : List String
  query : Option String
  fragment : Option String
deriving DecidableEq, Repr

/-- A C0 control or a space: trimmed from both ends of the input. -/
def isC0OrSpace (c : Char) : Bool := c.toNat ≤ 0x20

/-- An ASCII tab or newline: dropped everywhere from the input. -/
def isTabOrNewline (c : Char) : Bool := c == '\t' || c == '\n' || c == '\r'

def clean (cs : List Char) : List Char :=
  (((cs.dropWhile isC0OrSpace).reverse.dropWhile isC0OrSpace).reverse).filter
    fun c => !isTabOrNewline c

/-- A code point of a scheme after its first letter. -/
def isSchemeChar (c : Char) : Bool := c.isAlphanum || c == '+' || c == '-' || c == '.'

/-- The lowercased scheme and the text after its `:`; a scheme starts with a letter. -/
def splitScheme : List Char → Option (String × List Char)
  | [] => none
  | c :: cs =>
    if c.isAlpha then
      match (c :: cs).dropWhile isSchemeChar with
      | ':' :: rest => some (String.ofList (((c :: cs).takeWhile isSchemeChar).map Char.toLower), rest)
      | _ => none
    else none

def specialSchemes : List String := ["ftp", "http", "https", "ws", "wss"]

/-- A slash of either kind: the separator of a special URL's path. -/
def isSlash (c : Char) : Bool := c == '/' || c == '\\'

/-- A code point that ends a special URL's authority. -/
def endsAuthority (c : Char) : Bool := isSlash c || c == '?' || c == '#'

/-- The C0 controls and delete, encoded in every part of a URL. -/
def isControl (c : Char) : Bool := c.toNat < 0x20 || c.toNat == 0x7F

def pathSet (c : Char) : Bool :=
  isControl c || [' ', '\x22', '#', '<', '>', '?', '\x60', '\x7b', '\x7d'].contains c

def querySet (c : Char) : Bool :=
  isControl c || [' ', '\x22', '#', '<', '>', '\x27'].contains c

def fragmentSet (c : Char) : Bool :=
  isControl c || [' ', '\x22', '<', '>', '\x60'].contains c

def hexDigit (n : Nat) : Char := if n < 10 then Char.ofNat (48 + n) else Char.ofNat (55 + n)

/-- A byte as `%` and two uppercase hex digits. -/
def percentByte (b : UInt8) : List Char := ['%', hexDigit (b.toNat / 16), hexDigit (b.toNat % 16)]

/-- A code point percent-encoded by a set: an ASCII one outside the set stays as it is, any other
is written byte by byte. -/
def encodeChar (inSet : Char → Bool) (c : Char) : List Char :=
  if c.toNat < 0x80 && !inSet c then [c] else (String.utf8EncodeChar c).flatMap percentByte

def encode (inSet : Char → Bool) (cs : List Char) : List Char := cs.flatMap (encodeChar inSet)

/-- A segment the parser reads as `.`: the dot, or `%2e` in either case. -/
def isSingleDot (seg : List Char) : Bool :=
  let s := seg.map Char.toLower
  s == ['.'] || s == ['%', '2', 'e']

/-- A segment the parser reads as `..`: two dots, each written as itself or as `%2e`. -/
def isDoubleDot (seg : List Char) : Bool :=
  let s := seg.map Char.toLower
  s == ['.', '.'] || s == ['.', '%', '2', 'e'] || s == ['%', '2', 'e', '.'] ||
    s == ['%', '2', 'e', '%', '2', 'e']

/-- Adds a finished segment to the path: `..` drops the last segment and `.` adds none, each adding
an empty one when no slash follows; any other segment is added. -/
def endSegment (path : List String) (buffer : List Char) (slash : Bool) : List String :=
  if isDoubleDot buffer then
    if slash then path.dropLast else path.dropLast ++ [""]
  else if isSingleDot buffer then
    if slash then path else path ++ [""]
  else path ++ [String.ofList buffer]

/-- The path state: the segments up to the first `?` or `#`, and the text from there on. -/
def pathState (path : List String) (buffer : List Char) : List Char → List String × List Char
  | [] => (endSegment path buffer false, [])
  | c :: rest =>
    if isSlash c then pathState (endSegment path buffer true) [] rest
    else if c == '?' || c == '#' then (endSegment path buffer false, c :: rest)
    else pathState path (buffer ++ encodeChar pathSet c) rest

def fragment? : List Char → Option String
  | '#' :: rest => some (String.ofList (encode fragmentSet rest))
  | _ => none

/-- The query and the fragment after the path: a query runs from `?` to the first `#`. -/
def queryAndFragment : List Char → Option String × Option String
  | '?' :: rest =>
    (some (String.ofList (encode querySet (rest.takeWhile (· != '#')))),
      fragment? (rest.dropWhile (· != '#')))
  | rest => (none, fragment? rest)

/-- The text the path state starts on: a special URL's path start state takes one slash. -/
def afterPathStart : List Char → List Char
  | c :: rest => if isSlash c then rest else c :: rest
  | [] => []

/-- Parses a URL of a special scheme other than `file`. -/
def parse (input : String) : Option Parsed :=
  match splitScheme (clean input.toList) with
  | none => none
  | some sr =>
    if sr.1 ∈ specialSchemes then
      let afterSlashes := sr.2.dropWhile isSlash
      let authority := afterSlashes.takeWhile fun c => !endsAuthority c
      let rest := afterSlashes.dropWhile fun c => !endsAuthority c
      if authority.isEmpty then none
      else
        let segments := pathState [] [] (afterPathStart rest)
        let qf := queryAndFragment segments.2
        some { scheme := sr.1, authority := String.ofList authority, path := segments.1,
               query := qf.1, fragment := qf.2 }
    else none

/-- A URL parser: the URL a text parses to, if it is one. -/
structure Parser where
  parse : String → Option Parsed

def standard : Parser := ⟨parse⟩

/-- Percent-decodes a text into bytes: `%` and two hex digits is that byte, and any other code
point its UTF-8 bytes. -/
def percentDecode : List Char → List UInt8
  | [] => []
  | '%' :: h :: l :: more =>
    match Token.hexValue? h, Token.hexValue? l with
    | some hi, some lo => (hi * 16 + lo).toUInt8 :: percentDecode more
    | _, _ => 37 :: percentDecode (h :: l :: more)
  | c :: rest => String.utf8EncodeChar c ++ percentDecode rest

end RosterSync.Url
