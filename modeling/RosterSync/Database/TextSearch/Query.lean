import RosterSync.Database.TextSearch.Search

/-!
The two query languages of the text indexes.

**The newer language.** A query is cut into tokens: brackets `(` `)` `{` `}`, `:`, `,`, `+`, `*`,
`-`, `^`, quoted strings (`""` stands for a quote inside) and barewords (runs of letters, digits,
`_`, the byte 26 and characters beyond ASCII); `AND`, `OR` and `NOT` written in capitals are
operators. The grammar, loosest first:

    expr     := expr OR expr | expr AND expr | expr NOT expr
              | colset : ( expr ) | ( expr ) | cnearset+
    cnearset := [colset :] nearset
    nearset  := [^] phrase | NEAR ( phrase+ [, n] )
    phrase   := string [*] (+ string [*])*
    colset   := [-] column | [-] { column+ }

Operators of one level group from the left; cnearsets written side by side are joined by `AND`.
Each string is cut by the index's tokenizer; `*` lets its last word match any word it begins, `^`
ties the phrase to the start of a column, a colset keeps or (after `-`) drops columns, and a
`NEAR` group's distance is 10 unless given. A phrase with no words matches nothing; side by side
it is left out, and in a `NEAR` group beside another phrase it is dropped.

**The older language.** Pieces are read one at a time: `OR`, `AND`, `NOT` and `NEAR` (or
`NEAR/n`) in capitals when a blank, quote, bracket or the end follows; a quoted phrase (no
escapes; a word inside followed by `*` is open, and in the fourth version one after `^` must start
its column); a bracketed query; or else one word of the text up to the next quote or bracket,
optionally after `column:` and followed by `*`. Operands written side by side are joined by `AND`.
`NEAR` binds tightest, then `NOT`, `AND` and `OR`, all grouping from the left; an operator must
stand between two operands, `NEAR` only between phrases; brackets must balance.
-/

namespace RosterSync.Database.TextSearch

inductive QueryToken where
  /-- A bareword or a quoted string: its text as written and its words' source text. -/
  | str (raw text : String)
  | orOp
  | andOp
  | notOp
  | lp
  | rp
  | lcp
  | rcp
  | colon
  | comma
  | plus
  | star
  | minus
  | caret
deriving Repr, BEq, Inhabited

def isBarewordChar (c : Char) : Bool :=
  c.toNat ≥ 0x80 || c.isAlphanum || c == '_' || c.toNat == 0x1A

def isQueryBlank (c : Char) : Bool := c == ' ' || c == '\t' || c == '\n' || c == '\r'

/-- Reads a quoted string after its opening quote: its text with each doubled quote made one, and
what follows the closing quote. -/
def quotedRest : List Char → List Char → Option (List Char × List Char)
  | '"' :: '"' :: rest, acc => quotedRest rest ('"' :: acc)
  | '"' :: rest, acc => some (acc.reverse, rest)
  | c :: rest, acc => quotedRest rest (c :: acc)
  | [], _ => none

/-- The tokens of a query in the newer language. -/
def queryTokens (cs : List Char) : Except String (List QueryToken) :=
  go cs.length cs []
where
  go : Nat → List Char → List QueryToken → Except String (List QueryToken)
    | 0, _, acc => .ok acc.reverse
    | fuel + 1, cs, acc =>
      match cs.dropWhile isQueryBlank with
      | [] => .ok acc.reverse
      | c :: rest =>
        let single : Option QueryToken :=
          if c == '(' then some .lp else if c == ')' then some .rp
          else if c == '\x7b' then some .lcp else if c == '\x7d' then some .rcp
          else if c == ':' then some .colon else if c == ',' then some .comma
          else if c == '+' then some .plus else if c == '*' then some .star
          else if c == '-' then some .minus else if c == '^' then some .caret
          else none
        match single with
        | some t => go fuel rest (t :: acc)
        | none =>
          if c == '"' then
            match quotedRest rest [] with
            | some (inner, after) =>
              let raw := String.ofList (c :: rest.take (rest.length - after.length))
              go fuel after (.str raw (String.ofList inner) :: acc)
            | none => .error "unterminated string"
          else if isBarewordChar c then
            let word := c :: rest.takeWhile isBarewordChar
            let after := rest.dropWhile isBarewordChar
            let w := String.ofList word
            let t : QueryToken :=
              if w == "OR" then .orOp else if w == "AND" then .andOp else if w == "NOT" then .notOp
              else .str w w
            go fuel after (t :: acc)
          else .error ("fts5: syntax error near \"" ++ String.ofList [c] ++ "\"")

abbrev QueryParse := StateT (List QueryToken) (Except String)

def peekQuery : QueryParse (Option QueryToken) := do return (← get).head?

def peekQuerySecond : QueryParse (Option QueryToken) := do return ((← get).drop 1).head?

def takeQuery : QueryParse (Option QueryToken) := do
  match ← get with
  | t :: rest => set rest; return some t
  | [] => return none

/-- The error for a token the grammar does not allow where it stands. -/
def queryTokenError (t : Option QueryToken) : String :=
  let shown := match t with
    | some (.str raw _) => raw
    | some .orOp => "OR" | some .andOp => "AND" | some .notOp => "NOT"
    | some .lp => "(" | some .rp => ")" | some .lcp => "\x7b" | some .rcp => "\x7d"
    | some .colon => ":" | some .comma => "," | some .plus => "+" | some .star => "*"
    | some .minus => "-" | some .caret => "^"
    | none => ""
  "fts5: syntax error near \"" ++ shown ++ "\""

/-- Takes a token that must be the one given. -/
def expectQuery (t : QueryToken) : QueryParse Unit := do
  let n ← takeQuery
  if n != some t then throw (queryTokenError n)

/-- What the newer language reads a query against: the tokenizer and the column names. -/
structure QueryFrame where
  tokenizer : Tokenizer
  columns : List String

/-- The position of a column named in a query, compared without ASCII case. -/
def QueryFrame.column (f : QueryFrame) (name : String) : Except String Nat :=
  match f.columns.findIdx? (fun c => c.toLower == name.toLower) with
  | some i => .ok i
  | none => .error ("no such column: " ++ name)

/-- Reads the names of a brace-delimited column set up to its closing brace. -/
def colsetNames (f : QueryFrame) : Nat → List Nat → QueryParse (List Nat)
  | 0, acc => pure acc
  | fuel + 1, acc => do
    match ← takeQuery with
    | some (.str _ text) =>
      match f.column text with
      | .ok i => colsetNames f fuel (acc ++ [i])
      | .error e => throw e
    | some .rcp => if acc.isEmpty then throw (queryTokenError (some .rcp)) else pure acc
    | t => throw (queryTokenError t)

def colset (f : QueryFrame) (fuel : Nat) : QueryParse (List Nat) := do
  let dropping ← do
    if (← peekQuery) == some .minus then
      let _ ← takeQuery
      pure true
    else pure false
  let named ← match ← takeQuery with
    | some .lcp => colsetNames f fuel []
    | some (.str _ text) =>
      match f.column text with
      | .ok i => pure [i]
      | .error e => throw e
    | t => throw (queryTokenError t)
  let all := List.range f.columns.length
  pure (if dropping then all.filter (!named.contains ·) else all.filter named.contains)

/-- The words a string of a phrase gives under the tokenizer, the last open when `*` follows. -/
def stringWords (f : QueryFrame) (text : String) (opening : Bool) : List QueryWord :=
  let ws := f.tokenizer.words text
  ws.zipIdx.map fun (w, i) =>
    { term := w.term, opening := opening && i + 1 == ws.length, first := false }

/-- Reads a phrase: strings joined by `+`, each optionally followed by `*`. -/
def phraseWords (f : QueryFrame) : Nat → List QueryWord → QueryParse (List QueryWord)
  | 0, acc => pure acc
  | fuel + 1, acc => do
    match ← takeQuery with
    | some (.str _ text) =>
      let opening ← do
        if (← peekQuery) == some .star then
          let _ ← takeQuery
          pure true
        else pure false
      let acc := acc ++ stringWords f text opening
      if (← peekQuery) == some .plus then
        let _ ← takeQuery
        phraseWords f fuel acc
      else pure acc
    | t => throw (queryTokenError t)

/-- Whether a token starts a phrase, a `NEAR` group or a column set. -/
def startsNearset (t : Option QueryToken) : Bool :=
  match t with
  | some (.str _ _) | some .caret | some .minus | some .lcp => true
  | _ => false

/-- A `NEAR` group's phrases up to its distance or closing bracket. -/
def nearPhrases (f : QueryFrame) : Nat → List Phrase → QueryParse (List Phrase)
  | 0, acc => pure acc
  | fuel + 1, acc => do
    match ← peekQuery with
    | some (.str _ _) =>
      let ws ← phraseWords f fuel []
      let p : Phrase := { words := ws, columns := none }
      -- A phrase with no words beside another is dropped.
      let acc := match acc.getLast? with
        | some last => if ws.isEmpty then acc else if last.words.isEmpty then acc.dropLast ++ [p] else acc ++ [p]
        | none => [p]
      nearPhrases f fuel acc
    | _ => if acc.isEmpty then throw (queryTokenError (← peekQuery)) else pure acc

/-- The search a list of a nearset's phrases gives: nothing when one has no words. -/
def nearSearch (ps : List Phrase) (gap : Option Nat) : Search :=
  if ps.any (·.words.isEmpty) then .nothing
  else match ps, gap with
    | [p], _ => .phrase p
    | _, g => .window ps (g.getD 10)

/-- Reads a nearset: a phrase, `^` and a phrase, or a `NEAR` group. -/
def nearset (f : QueryFrame) (fuel : Nat) : QueryParse Search := do
  match ← peekQuery, ← peekQuerySecond with
  | some .caret, _ =>
    let _ ← takeQuery
    let ws ← phraseWords f fuel []
    let ws := match ws with
      | w :: rest => { w with first := true } :: rest
      | [] => []
    pure (nearSearch [{ words := ws, columns := none }] none)
  | some (.str raw _), some .lp =>
    if raw != "NEAR" then throw ("fts5: syntax error near \"" ++ raw ++ "\"")
    let _ ← takeQuery
    let _ ← takeQuery
    let ps ← nearPhrases f fuel []
    let gap ← match ← peekQuery with
      | some .comma =>
        let _ ← takeQuery
        match ← takeQuery with
        | some (.str raw' _) =>
          if raw'.toList.all Char.isDigit then
            pure (some (raw'.toList.foldl (fun n c => n * 10 + (c.toNat - 48)) 0))
          else throw ("expected integer, got \"" ++ raw' ++ "\"")
        | t => throw (queryTokenError t)
      | _ => pure none
    expectQuery .rp
    pure (nearSearch ps gap)
  | _, _ =>
    let ws ← phraseWords f fuel []
    pure (nearSearch [{ words := ws, columns := none }] none)

/-- Whether a token begins a column set followed by `:`. -/
def startsColset : Option QueryToken → Option QueryToken → Bool
  | some .minus, _ => true
  | some .lcp, _ => true
  | some (.str _ _), some .colon => true
  | _, _ => false

/-- Joins nearsets written side by side: a side with nothing is left out. -/
def joinSideBySide (a b : Search) : Search :=
  match a, b with
  | _, .nothing => a
  | .nothing, _ => b
  | .both x .nothing, _ => .both x b
  | _, _ => .both a b

mutual

/-- Reads a query of the newer language at its loosest level, `OR`. -/
def orLevel (f : QueryFrame) (fuel : Nat) : QueryParse Search :=
  match fuel with
  | 0 => throw "fts5: parser stack overflow"
  | fuel + 1 => do
    let first ← andLevel f fuel
    orRest f fuel first

def orRest (f : QueryFrame) (fuel : Nat) (acc : Search) : QueryParse Search :=
  match fuel with
  | 0 => pure acc
  | fuel + 1 => do
    if (← peekQuery) == some .orOp then
      let _ ← takeQuery
      let b ← andLevel f fuel
      orRest f fuel (.either acc b)
    else pure acc

def andLevel (f : QueryFrame) (fuel : Nat) : QueryParse Search :=
  match fuel with
  | 0 => throw "fts5: parser stack overflow"
  | fuel + 1 => do
    let first ← notLevel f fuel
    andRest f fuel first

def andRest (f : QueryFrame) (fuel : Nat) (acc : Search) : QueryParse Search :=
  match fuel with
  | 0 => pure acc
  | fuel + 1 => do
    if (← peekQuery) == some .andOp then
      let _ ← takeQuery
      let b ← notLevel f fuel
      andRest f fuel (.both acc b)
    else pure acc

def notLevel (f : QueryFrame) (fuel : Nat) : QueryParse Search :=
  match fuel with
  | 0 => throw "fts5: parser stack overflow"
  | fuel + 1 => do
    let first ← operand f fuel
    notRest f fuel first

def notRest (f : QueryFrame) (fuel : Nat) (acc : Search) : QueryParse Search :=
  match fuel with
  | 0 => pure acc
  | fuel + 1 => do
    if (← peekQuery) == some .notOp then
      let _ ← takeQuery
      let b ← operand f fuel
      notRest f fuel (.without acc b)
    else pure acc

/-- Reads an operand: a bracketed query, one under a column set, or nearsets side by side. -/
def operand (f : QueryFrame) (fuel : Nat) : QueryParse Search :=
  match fuel with
  | 0 => throw "fts5: parser stack overflow"
  | fuel + 1 => do
    let t ← peekQuery
    if t == some .lp then
      let _ ← takeQuery
      let e ← orLevel f fuel
      expectQuery .rp
      pure e
    else if startsColset t (← peekQuerySecond) then
      let cols ← colset f fuel
      expectQuery .colon
      if (← peekQuery) == some .lp then
        let _ ← takeQuery
        let e ← orLevel f fuel
        expectQuery .rp
        pure (e.within cols)
      else
        let n ← nearset f fuel
        sideBySide f fuel (n.within cols)
    else if startsNearset t then
      let n ← nearset f fuel
      sideBySide f fuel n
    else throw (queryTokenError t)

def sideBySide (f : QueryFrame) (fuel : Nat) (acc : Search) : QueryParse Search :=
  match fuel with
  | 0 => pure acc
  | fuel + 1 => do
    let t ← peekQuery
    if startsNearset t then
      let n ← if startsColset t (← peekQuerySecond) then do
          let cols ← colset f fuel
          expectQuery .colon
          pure ((← nearset f fuel).within cols)
        else nearset f fuel
      sideBySide f fuel (joinSideBySide acc n)
    else pure acc

end

/-- Reads a query of the newer language; `column` narrows it to one column. -/
def parseNewerQuery (f : QueryFrame) (column : Option Nat) (q : String) : Except String Search := do
  let tokens ← queryTokens q.toList
  let fuel := 4 * tokens.length + 8
  let (s, rest) ← (orLevel f fuel).run tokens
  if !rest.isEmpty then throw (queryTokenError rest.head?)
  pure (match column with
    | some c => s.within [c]
    | none => s)

/-! ### The older language -/

/-- An operator of the older language, by how tightly it binds (smaller binds tighter). -/
inductive OlderOp where
  | near (gap : Nat)
  | notOp
  | andOp
  | orOp
deriving Repr, BEq, Inhabited

/-- How tightly an operator binds: `NEAR` 1, `NOT` 2, `AND` 3, `OR` 4. -/
def OlderOp.rank : OlderOp → Nat
  | .near _ => 1
  | .notOp => 2
  | .andOp => 3
  | .orOp => 4

/-- A tree of the older language before its `NEAR` runs become chains. -/
inductive OlderTree where
  | leaf (p : Phrase)
  | node (op : OlderOp) (a b : OlderTree)
deriving Repr, Inhabited

def OlderTree.isPhrase : OlderTree → Bool
  | .leaf _ => true
  | .node _ _ _ => false

def OlderTree.isNear : OlderTree → Bool
  | .node (.near _) _ _ => true
  | _ => false

inductive OlderPiece where
  | op (o : OlderOp)
  | operand (t : OlderTree)
deriving Inhabited

/-- Whether a character is a blank of the older language. -/
def isOlderBlank (c : Char) : Bool :=
  c == ' ' || c == '\t' || c == '\n' || c == '\r' || c.toNat == 11 || c.toNat == 12

/-- The keyword a query starts with, with what follows it, when a blank, quote, bracket or the end
comes after it. -/
def olderKeyword (cs : List Char) : Option (OlderOp × List Char) :=
  let boundary (rest : List Char) : Bool :=
    match rest with
    | [] => true
    | c :: _ => isOlderBlank c || c == '"' || c == '(' || c == ')'
  let try1 (kw : String) (o : OlderOp) : Option (OlderOp × List Char) :=
    let k := kw.toList
    if k.isPrefixOf cs && boundary (cs.drop k.length) then some (o, cs.drop k.length) else none
  let near : Option (OlderOp × List Char) :=
    if "NEAR".toList.isPrefixOf cs then
      match cs.drop 4 with
      | '/' :: d :: rest =>
        if d.isDigit then
          let digits := d :: rest.takeWhile Char.isDigit
          let after := rest.dropWhile Char.isDigit
          let n := digits.foldl (fun n c => n * 10 + (c.toNat - 48)) 0
          if boundary after then some (.near n, after) else none
        else if boundary (cs.drop 4) then some (.near 10, cs.drop 4) else none
      | rest => if boundary rest then some (.near 10, rest) else none
    else none
  (try1 "OR" .orOp).orElse fun _ => (try1 "AND" .andOp).orElse fun _ =>
    (try1 "NOT" .notOp).orElse fun _ => near

structure OlderFrame where
  tokenizer : Tokenizer
  columns : List String
  /-- The column an unqualified word is looked for in; all when none. -/
  defaultColumn : Option Nat
  /-- Whether `^` ties a word to the start of its column. -/
  carets : Bool

def OlderFrame.quotedPhrase (f : OlderFrame) (inner : List Char) : Phrase :=
  let ws := f.tokenizer.words (String.ofList inner)
  { words := ws.map fun w =>
      { term := w.term, opening := inner[w.stop]? == some '*',
        first := f.carets && w.start > 0 && inner[w.start - 1]? == some '^' },
    columns := f.defaultColumn.map ([·]) }

/-- The column a word names before `:`, and what follows the colon. -/
def OlderFrame.columnSpec (f : OlderFrame) (cs : List Char) : Option (Nat × List Char) :=
  f.columns.zipIdx.findSome? fun (name, i) =>
    let n := name.length
    if cs.length > n && cs[n]? == some ':' &&
        (cs.take n).map asciiFold == name.toList.map asciiFold then
      some (i, cs.drop (n + 1))
    else none

/-- The one-word phrase at the start of a text, read up to the next quote or bracket, and what
follows it; `none` for the phrase when that text holds no word. A text that starts with a quote
or bracket (as one can after a column's name) holds no word and takes the rest of the query. -/
def OlderFrame.nextWord (f : OlderFrame) (column : Option Nat) (cs : List Char) :
    Option Phrase × List Char :=
  let segment := cs.takeWhile fun c => c != '(' && c != ')' && c != '"'
  match f.tokenizer.words (String.ofList segment) with
  | [] => (none, if segment.isEmpty then [] else cs.drop segment.length)
  | w :: _ =>
    let opening := segment[w.stop]? == some '*'
    let stop := if opening then w.stop + 1 else w.stop
    let first := f.carets && w.start > 0 && segment[w.start - 1]? == some '^'
    (some { words := [{ term := w.term, opening := opening, first := first }],
            columns := column.map ([·]) }, cs.drop stop)

/-- Pops the operators waiting on a stack that bind at least as tightly as `limit`, each taking
the tree built so far as its right side. -/
def reduceWhile (limit : Nat) : List (OlderTree × OlderOp) → OlderTree →
    List (OlderTree × OlderOp) × OlderTree
  | (l, o) :: rest, cur => if o.rank ≤ limit then reduceWhile limit rest (.node o l cur) else ((l, o) :: rest, cur)
  | [], cur => ([], cur)

/-- Builds a tree from operands and the operators between them, tighter operators first and equal
ones from the left. -/
def olderBuild (first : OlderTree) (rest : List (OlderOp × OlderTree)) : OlderTree :=
  let (stack, cur) := rest.foldl (fun (acc : List (OlderTree × OlderOp) × OlderTree) (o, t) =>
      let (stack, cur) := reduceWhile o.rank acc.1 acc.2
      ((cur, o) :: stack, t)) ([], first)
  (reduceWhile 100 stack cur).2

/-- Turns the `NEAR` runs of a tree into chains. -/
def OlderTree.toSearch : OlderTree → Search
  | .leaf p => .phrase p
  | .node (.near g) a b =>
    match nearRun (.node (.near g) a b) with
    | some (head, links) => .chain head links
    | none => .nothing
  | .node .notOp a b => .without a.toSearch b.toSearch
  | .node .andOp a b => .both a.toSearch b.toSearch
  | .node .orOp a b => .either a.toSearch b.toSearch
where
  nearRun : OlderTree → Option (Phrase × List (Nat × Phrase))
    | .leaf p => some (p, [])
    | .node (.near g) a (.leaf p) => (nearRun a).map fun (h, ls) => (h, ls ++ [(g, p)])
    | _ => none

/-- Checks the order of operands and operators, joins operands side by side with `AND`, and
builds the tree. -/
def olderFinish (pieces : List OlderPiece) (rest : List Char) :
    Except String (Option OlderTree × List Char) := do
  -- Each step keeps: operands and operators so far, whether an operand is due, and the last piece.
  let step (acc : List OlderPiece × Bool × Option OlderPiece) (p : OlderPiece) :
      Except String (List OlderPiece × Bool × Option OlderPiece) := do
    let (seq, due, prev) := acc
    let isOperand := match p with
      | .operand _ => true
      | .op _ => false
    if !isOperand && due then throw "malformed MATCH expression"
    let (seq, prev) := if isOperand && !due then (seq ++ [.op .andOp], some (OlderPiece.op .andOp))
      else (seq, prev)
    let prevIsPhrase := match prev with
      | some (.operand t) => t.isPhrase
      | _ => false
    let prevIsNear := match prev with
      | some (.op (.near _)) => true
      | _ => false
    match p with
    | .op (.near _) => if prev.isSome && !prevIsPhrase then throw "malformed MATCH expression"
    | .operand t => if !t.isPhrase && prevIsNear then throw "malformed MATCH expression"
    | _ => pure ()
    pure (seq ++ [p], !isOperand, some p)
  let (seq, due, _) ← pieces.foldlM step ([], true, none)
  if seq.isEmpty then return (none, rest)
  if due then throw "malformed MATCH expression"
  match seq with
  | .operand first :: more =>
    let pairs := (more.zip more.tail).zipIdx.filterMap fun ((a, b), i) =>
      match a, b with
      | .op o, .operand t => if i % 2 == 0 then some (o, t) else none
      | _, _ => none
    pure (some (olderBuild first pairs), rest)
  | _ => throw "malformed MATCH expression"

/-- Reads pieces of an older query up to a closing bracket (when `nested`) or the end: the tree
they make, if any, and what follows. -/
def olderSequence (f : OlderFrame) (fuel : Nat) (nested : Bool) (cs : List Char)
    (pieces : List OlderPiece) : Except String (Option OlderTree × List Char) :=
  match fuel with
  | 0 => .error "malformed MATCH expression"
  | fuel + 1 =>
    let cs := cs.dropWhile isOlderBlank
    match cs with
    | [] => if nested then .error "malformed MATCH expression" else olderFinish pieces []
    | ')' :: rest => if nested then olderFinish pieces rest else .error "malformed MATCH expression"
    | '(' :: rest => do
      let (t, after) ← olderSequence f fuel true rest []
      match t with
      | some t => olderSequence f fuel nested after (pieces ++ [.operand t])
      | none => olderSequence f fuel nested after pieces
    | '"' :: rest =>
      match rest.findIdx? (· == '"') with
      | some i =>
        olderSequence f fuel nested (rest.drop (i + 1)) (pieces ++ [.operand (.leaf (f.quotedPhrase (rest.take i)))])
      | none => .error "malformed MATCH expression"
    | _ =>
      match olderKeyword cs with
      | some (o, after) => olderSequence f fuel nested after (pieces ++ [.op o])
      | none =>
        let (column, text) := match f.columnSpec cs with
          | some (i, after) => (some i, after)
          | none => (f.defaultColumn, cs)
        match f.nextWord column text with
        | (some p, after) => olderSequence f fuel nested after (pieces ++ [.operand (.leaf p)])
        | (none, after) =>
          if after.length < cs.length then olderSequence f fuel nested after pieces
          else .error "malformed MATCH expression"
termination_by structural fuel

def parseOlderQuery (f : OlderFrame) (q : String) : Except String Search := do
  let cs := q.toList
  let (t, _) ← olderSequence f (cs.length + 2) false cs []
  pure (match t with
    | some t => t.toSearch
    | none => .nothing)

end RosterSync.Database.TextSearch
