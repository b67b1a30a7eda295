import RosterSync.Database.Json.Node

/-!
Reading JSON text.

The reader takes standard JSON and the JSON5 extensions the database allows: comments and more
kinds of blank, single-quoted strings with more escapes, hexadecimal integers, numbers with a
leading `+` or a bare point, `Infinity` and `NaN`, unquoted labels and trailing commas. It notes
whether it met any of them, which `json_valid` asks. Nesting deeper than a thousand arrays or
objects is an error.

On an error the reader reports a character place, the one `json_error_position` counts from:
the last place where it stopped at a fault or at a closing bracket, comma or colon. The reader
walks an array of characters by index; the zero character, and the end of the text, end it.
-/

namespace RosterSync.Database

namespace JsonText

def nulChar : Char := Char.ofNat 0

/-- The character at a place of a text, the zero character past its end. -/
def charAt (z : Array Char) (i : Nat) : Char := z.getD i nulChar

/-- Whether a character is a blank of standard JSON. -/
def isJsonSpace (c : Char) : Bool := c = ' ' || c = '\t' || c = '\n' || c = '\r'

/-- Whether a character is one of the further blanks of JSON5. -/
def isJson5Space (c : Char) : Bool :=
  let n := c.toNat
  n = 0x0b || n = 0x0c || n = 0xa0 || n = 0x1680 || (0x2000 ≤ n && n ≤ 0x200a) || n = 0x2028 ||
    n = 0x2029 || n = 0x202f || n = 0x205f || n = 0x3000 || n = 0xfeff

/-- The first place from `j` on whose character fails a test. -/
def skipWhile (p : Char → Bool) (z : Array Char) (j : Nat) : Nat := go (z.size + 1) j
where
  go : Nat → Nat → Nat
  | 0, j => j
  | fuel + 1, j => if p (charAt z j) then go fuel (j + 1) else j

/-- The place of the `/` that closes a block comment, searching from `j`; `none` when the text
ends first. -/
def commentEnd (z : Array Char) (j : Nat) : Option Nat := go (z.size + 1) j
where
  go : Nat → Nat → Option Nat
  | 0, _ => none
  | fuel + 1, j =>
    let c := charAt z j
    if c = nulChar then none
    else if c = '/' && charAt z (j - 1) = '*' then some j
    else go fuel (j + 1)

/-- The number of characters of blanks and comments starting at `i`. A block comment that is
not closed is not taken; a line comment ends with its line. -/
def blankLength (z : Array Char) (i : Nat) : Nat := go (z.size + 1) 0
where
  go : Nat → Nat → Nat
  | 0, n => n
  | fuel + 1, n =>
    let c := charAt z (i + n)
    if isJsonSpace c || isJson5Space c then go fuel (n + 1)
    else if c = '/' then
      let c1 := charAt z (i + n + 1)
      if c1 = '*' && charAt z (i + n + 2) ≠ nulChar then
        match commentEnd z (i + n + 3) with
        | some j => go fuel (j + 1 - i)
        | none => n
      else if c1 = '/' then
        let j := skipWhile (fun d => d ≠ nulChar && d ≠ '\n' && d ≠ '\r' && !isLineSeparator d) z
          (i + n + 2)
        go fuel (if charAt z j ≠ nulChar then j + 1 - i else j - i)
      else n
    else n

def hexRun (z : Array Char) (j k : Nat) : Bool := (List.range k).all fun d => isHexChar (charAt z (j + d))

/-- Whether a word stands at place `i`, not followed by a letter or digit. -/
def wordAt (z : Array Char) (i : Nat) (w : String) : Bool :=
  (w.toList.zipIdx.all fun (c, d) => charAt z (i + d) = c) && !(charAt z (i + w.length)).isAlphanum

/-- Whether a word stands at place `i`, in any case. -/
def wordAtAnyCase (z : Array Char) (i : Nat) (w : String) : Bool :=
  w.toList.zipIdx.all fun (c, d) => (charAt z (i + d)).toLower = c.toLower

def textBetween (z : Array Char) (i j : Nat) : String := String.ofList (z.extract i j).toList

/-- What the reader carries: the place of the last fault or mark, and whether it met JSON5. -/
structure ScanState where
  err : Nat := 0
  extended : Bool := false

/-- What reading at a place finds: a value and the place after it, a closing bracket, comma or
colon (its place is the state's `err`), the end of the text, or a fault (at the state's
`err`). -/
inductive Found where
  | value (node : JNode) (next : Nat)
  | mark (c : Char)
  | finish
  | bad

abbrev Scan := StateM ScanState Found

def fault (i : Nat) : Scan := do
  modify fun s => { s with err := i }
  pure .bad

def markAt (c : Char) (i : Nat) : Scan := do
  modify fun s => { s with err := i }
  pure (.mark c)

/-- Notes that JSON5 was met. -/
def noteExtended : StateM ScanState Unit := modify fun s => { s with extended := true }

/-- The deepest nesting of arrays and objects the reader takes. -/
def maxDepth : Nat := 1000

/-- A number from place `i` to `j`: of kind `0` integer, `1` hexadecimal integer, `2` real and
`3` real with a bare point. A leading `+` is dropped. -/
def finishNumber (z : Array Char) (i j kind : Nat) : Scan :=
  let start := if charAt z i = '+' then i + 1 else i
  let text := textBetween z start j
  let node := match kind with
    | 0 => JNode.int text
    | 1 => .hexInt text
    | 2 => .real text
    | _ => .looseReal text
  pure (.value node j)

/-- Whether the character before place `j` is a point with a digit before it, inside a number
that starts at `i`. -/
def bareBeforePoint (z : Array Char) (i j : Nat) : Bool :=
  charAt z (j - 1) = '.' && j ≥ i + 2 && (charAt z (j - 2)).isDigit

/-- Reads the rest of a decimal number that starts at `i`, from `j` on: digits, at most one
point and at most one exponent. The kind gains `2` once the number is real and `1` when a point
has no digit after it. -/
def numberTail (z : Array Char) (i : Nat) : Nat → Nat → Nat → Bool → Scan
  | 0, j, _, _ => fault j
  | fuel + 1, j, kind, seenE =>
    let c := charAt z j
    if c.isDigit then numberTail z i fuel (j + 1) kind seenE
    else if c = '.' then
      if kind % 4 ≥ 2 then fault j else numberTail z i fuel (j + 1) (kind % 2 + 2) seenE
    else if c = 'e' || c = 'E' then
      let bare := charAt z (j - 1) < '0'
      if bare && !bareBeforePoint z i j then fault j
      else if seenE then fault j
      else do
        if bare then noteExtended
        let kind := if bare then 3 else kind % 2 + 2
        let signed := charAt z (j + 1) = '+' || charAt z (j + 1) = '-'
        let j := if signed then j + 1 else j
        if !(charAt z (j + 1)).isDigit then fault j
        else numberTail z i fuel (j + 1) kind true
    else if charAt z (j - 1) < '0' then
      if bareBeforePoint z i j then do
        noteExtended
        finishNumber z i j 3
      else fault j
    else finishNumber z i j kind

/-- Reads a number whose first character, at `i`, is a sign or a digit: hexadecimal integers,
signed infinities and numbers with a bare point are JSON5, and a leading zero may not be
followed by a digit. -/
def scanNumber (z : Array Char) (i : Nat) : Scan := do
  let c := charAt z i
  let fuel := z.size + 1
  if c = '+' then noteExtended
  if c = '0' then
    let c1 := charAt z (i + 1)
    if (c1 = 'x' || c1 = 'X') && isHexChar (charAt z (i + 2)) then
      noteExtended
      finishNumber z i (skipWhile isHexChar z (i + 3)) 1
    else if c1.isDigit then fault (i + 1)
    else numberTail z i fuel (i + 1) 0 false
  else if c = '+' || c = '-' then
    let c1 := charAt z (i + 1)
    if !c1.isDigit then
      if (c1 = 'I' || c1 = 'i') && wordAtAnyCase z (i + 1) "inf" then
        noteExtended
        let node := JNode.real (if c = '-' then "-9e999" else "9e999")
        pure (.value node (i + (if wordAtAnyCase z (i + 4) "inity" then 9 else 4)))
      else if c1 = '.' then
        noteExtended
        numberTail z i fuel (i + 1) 1 false
      else fault i
    else if c1 = '0' then
      let c2 := charAt z (i + 2)
      if c2.isDigit then fault (i + 1)
      else if (c2 = 'x' || c2 = 'X') && isHexChar (charAt z (i + 3)) then
        noteExtended
        finishNumber z i (skipWhile isHexChar z (i + 4)) 1
      else numberTail z i fuel (i + 1) 0 false
    else numberTail z i fuel (i + 1) 0 false
  else numberTail z i fuel (i + 1) 0 false

/-- Reads the rest of a string that opened at `i` with `delim`, from `j` on. Standard escapes
make its text escaped; JSON5 escapes, control characters and (between single quotes) double
quotes make it extended. -/
def stringTail (z : Array Char) (i : Nat) (delim : Char) : Nat → Nat → JText → Scan
  | 0, j, _ => fault j
  | fuel + 1, j, kind =>
    let c := charAt z j
    if c = delim then pure (.value (.str kind (textBetween z (i + 1) j)) (j + 1))
    else if c = '\\' then
      let c2 := charAt z (j + 1)
      if "\"\\/bfnrt".toList.contains c2 || (c2 = 'u' && hexRun z (j + 2) 4) then
        stringTail z i delim fuel (j + 2) (if kind = .plain then .escaped else kind)
      else if c2 = '\'' || c2 = '0' || c2 = 'v' || c2 = '\n' || isLineSeparator c2 ||
          (c2 = 'x' && hexRun z (j + 2) 2) then do
        noteExtended
        stringTail z i delim fuel (j + 2) .extended
      else if c2 = '\r' then do
        noteExtended
        stringTail z i delim fuel (if charAt z (j + 2) = '\n' then j + 3 else j + 2) .extended
      else fault (j + 1)
    else if c.toNat ≤ 0x1f then
      if c = nulChar then fault j
      else do
        noteExtended
        stringTail z i delim fuel (j + 1) .extended
    else if c = '"' then stringTail z i delim fuel (j + 1) .extended
    else stringTail z i delim fuel (j + 1) kind

/-- Reads `Infinity`, `Inf`, `NaN`, `QNaN` or `SNaN` in any case at `i`, not followed by a
letter or digit: infinities are the real `9e999` and the others `null`. -/
def namedNumber (z : Array Char) (i : Nat) : Scan :=
  let names : List (String × JNode) :=
    [("inf", .real "9e999"), ("infinity", .real "9e999"), ("nan", .null), ("qnan", .null),
     ("snan", .null)]
  match names.find? fun (w, _) => wordAtAnyCase z i w && !(charAt z (i + w.length)).isAlphanum with
  | some (w, node) => do
    noteExtended
    pure (.value node (i + w.length))
  | none => fault i

/-- Whether a character may start an unquoted label: a letter, `_`, `$` or any character
outside ASCII. -/
def isLabelStart (c : Char) : Bool := c.isAlpha || c = '_' || c = '$' || c.toNat ≥ 0x80

/-- Whether a `\u` escape with four hexadecimal digits stands at place `j` (at the `u`). -/
def escapeUAt (z : Array Char) (j : Nat) : Bool := charAt z j = 'u' && hexRun z (j + 1) 4

/-- The end of an unquoted label that starts at `j`, and the kind of its text: it goes on over
letters, digits, `_`, `$` and characters outside ASCII that are no blanks, and over `\u`
escapes. -/
def labelEnd (z : Array Char) (j : Nat) : Nat × JText :=
  go (z.size + 1) (j + 1) (if charAt z j = '\\' then .escaped else .plain)
where
  go : Nat → Nat → JText → Nat × JText
  | 0, k, kind => (k, kind)
  | fuel + 1, k, kind =>
    let c := charAt z k
    if (isLabelStart c || c.isDigit) && !isJson5Space c then go fuel (k + 1) kind
    else if c = '\\' && escapeUAt z (k + 1) then go fuel (k + 1) .escaped
    else (k, kind)

mutual

/-- Reads a JSON value at `i`, after blanks, at a nesting depth. -/
def scanValue : Nat → Array Char → Nat → Nat → Scan
  | 0, _, i, _ => fault i
  | fuel + 1, z, i, depth =>
    let c := charAt z i
    if c = '{' then scanObject fuel z i depth
    else if c = '[' then scanArray fuel z i depth
    else if c = '"' then stringTail z i c (z.size + 1) (i + 1) .plain
    else if c = '\'' then do
      noteExtended
      stringTail z i c (z.size + 1) (i + 1) .plain
    else if c = 't' then
      if wordAt z i "true" then pure (.value .yes (i + 4)) else fault i
    else if c = 'f' then
      if wordAt z i "false" then pure (.value .no (i + 5)) else fault i
    else if c = '+' || c = '-' || c.isDigit then scanNumber z i
    else if c = '.' then
      if (charAt z (i + 1)).isDigit then do
        noteExtended
        numberTail z i (z.size + 1) (i + 1) 3 false
      else fault i
    else if c = '}' || c = ']' || c = ',' || c = ':' then markAt c i
    else if c = nulChar then pure .finish
    else if isJsonSpace c then scanValue fuel z (i + 1) depth
    else if c = 'n' && wordAt z i "null" then pure (.value .null (i + 4))
    else
      let n := blankLength z i
      if n > 0 then do
        noteExtended
        scanValue fuel z (i + n) depth
      else namedNumber z i

def scanArray : Nat → Array Char → Nat → Nat → Scan
  | 0, _, i, _ => fault i
  | fuel + 1, z, i, depth =>
    if depth + 1 > maxDepth then fault i else scanItems fuel z (depth + 1) (i + 1) []

/-- Reads array items from `j` on; `acc` holds the items read, last first. -/
def scanItems : Nat → Array Char → Nat → Nat → List JNode → Scan
  | 0, _, _, j, _ => fault j
  | fuel + 1, z, depth, j, acc => do
    match ← scanValue fuel z j depth with
    | .value v x =>
      let k := skipWhile isJsonSpace z x
      let c := charAt z k
      if c = ',' then scanItems fuel z depth (k + 1) (v :: acc)
      else if c = ']' then pure (.value (.arr (v :: acc).reverse) (k + 1))
      else
        match ← scanValue fuel z k depth with
        | .mark ',' => scanItems fuel z depth ((← get).err + 1) (v :: acc)
        | .mark ']' => pure (.value (.arr (v :: acc).reverse) ((← get).err + 1))
        | _ => fault k
    | .mark ']' =>
      if !acc.isEmpty then noteExtended
      pure (.value (.arr acc.reverse) ((← get).err + 1))
    | .bad => pure .bad
    | _ => fault j

def scanObject : Nat → Array Char → Nat → Nat → Scan
  | 0, _, i, _ => fault i
  | fuel + 1, z, i, depth =>
    if depth + 1 > maxDepth then fault i else scanMembers fuel z (depth + 1) (i + 1) []

/-- Reads object members from `j` on; `acc` holds the members read, last first. A label is a
string, or JSON5 letters, digits and `\u` escapes without quotes. -/
def scanMembers : Nat → Array Char → Nat → Nat → List (JLabel × JNode) → Scan
  | 0, _, _, j, _ => fault j
  | fuel + 1, z, depth, j, acc => do
    match ← scanValue fuel z j depth with
    | .mark '}' =>
      if !acc.isEmpty then noteExtended
      pure (.value (.obj acc.reverse) ((← get).err + 1))
    | .value (.str kind text) x => memberValue fuel z depth (kind, text) x acc
    | .value _ _ => fault j
    | other =>
      let j' := j + blankLength z j
      let c := charAt z j'
      if isLabelStart c || (c = '\\' && escapeUAt z (j' + 1)) then
        let (k, kind) := labelEnd z j'
        noteExtended
        memberValue fuel z depth (kind, textBetween z j' k) k acc
      else
        match other with
        | .bad => pure .bad
        | _ => fault j'

/-- Reads the colon and value of a member whose label ends at `x`, then the members after it. -/
def memberValue : Nat → Array Char → Nat → JLabel → Nat → List (JLabel × JNode) → Scan
  | 0, _, _, _, x, _ => fault x
  | fuel + 1, z, depth, label, x, acc => do
    let k := skipWhile isJsonSpace z x
    let start? : Option Nat ← do
      if charAt z k = ':' then pure (some (k + 1))
      else
        match ← scanValue fuel z k depth with
        | .mark ':' => pure (some ((← get).err + 1))
        | .bad => pure none
        | _ => do
          let _ ← fault k
          pure none
    match start? with
    | none => pure .bad
    | some v =>
      match ← scanValue fuel z v depth with
      | .value node y =>
        let acc := (label, node) :: acc
        let k := skipWhile isJsonSpace z y
        let c := charAt z k
        if c = ',' then scanMembers fuel z depth (k + 1) acc
        else if c = '}' then pure (.value (.obj acc.reverse) (k + 1))
        else
          match ← scanValue fuel z k depth with
          | .mark ',' => scanMembers fuel z depth ((← get).err + 1) acc
          | .mark '}' => pure (.value (.obj acc.reverse) ((← get).err + 1))
          | _ => fault k
      | .bad => pure .bad
      | _ => fault v

end

end JsonText

/-- Reads JSON text: the value and whether it used JSON5, or the character place of the error.
Blanks and comments may follow the value. -/
def readJsonText (s : String) : Except Nat (JNode × Bool) :=
  let z := s.toList.toArray
  let (r, st) := (JsonText.scanValue (4 * z.size + 8) z 0 0).run {}
  match r with
  | .value v i =>
    let i := JsonText.skipWhile JsonText.isJsonSpace z i
    if JsonText.charAt z i = JsonText.nulChar then .ok (v, st.extended)
    else if JsonText.charAt z (i + JsonText.blankLength z i) = JsonText.nulChar then .ok (v, true)
    else .error st.err
  | _ => .error st.err

end RosterSync.Database
