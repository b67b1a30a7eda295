import RosterSync.Database.Syntax
import RosterSync.Database.Lexer

/-!
Reading expressions and queries from tokens.

Operators bind, loosest first: `OR`; `AND`; prefix `NOT`; the equality group (`=`, `==`, `!=`,
`<>`, `IS [NOT] [DISTINCT FROM]`, `[NOT] LIKE/GLOB/REGEXP/MATCH`, `[NOT] BETWEEN … AND …`,
`[NOT] IN`, `ISNULL`, `NOTNULL`, `NOT NULL`); `<`, `<=`, `>`, `>=`; the bit operators `&`, `|`,
`<<`, `>>`; `+`, `-`; `*`, `/`, `%`; `||`, `->`, `->>`; postfix `COLLATE`; prefix `-`, `+`, `~`.
Binary operators group to the left.

Keywords that the grammar reserves cannot name a column or a table unless quoted; the others
can. `OVER`, `WINDOW` and `FILTER` are keywords only where a window or a filter can follow: `OVER`
after a call and before a parenthesis or a name, `WINDOW` before a name and `AS`. Parameters are
numbered in order of appearance: `?` takes the next number, `?N` the number `N`, and a named
parameter the next number at its first appearance.

Every reader takes fuel and spends one unit per nested call; the caller gives fuel in
proportion to the number of tokens, which every nested call either consumes or passes on.
-/

namespace RosterSync.Database

/-- The state of a reader: the tokens left and the named parameters seen; with the text read,
the places of all its tokens and how many have been taken, so that the text of a part can be
given back as it was written. -/
structure ParseState where
  tokens : List Token
  named : List (String × Nat)
  lastParam : Nat
  places : Array (Nat × Nat) := #[]
  taken : Nat := 0
  source : String := ""

abbrev Parse := StateT ParseState (Except String)

def reservedWords : List String :=
  ["add", "all", "alter", "and", "as", "autoincrement", "between", "case", "check", "collate",
   "commit", "constraint", "create", "cross", "default", "deferrable", "delete", "distinct",
   "drop", "else", "escape", "except", "exists", "foreign", "from", "full", "group",
   "having", "in", "index", "indexed", "inner", "insert", "intersect", "into", "is", "isnull",
   "join", "left", "limit", "natural", "not", "nothing", "notnull", "null", "on", "or", "order",
   "outer", "primary", "references", "returning", "right", "select", "set", "table",
   "then", "to", "transaction", "union", "unique", "update", "using", "values", "when", "where"]

def isReserved (w : String) : Bool := reservedWords.contains w.toLower

def peekToken : Parse (Option Token) := do return (← get).tokens.head?

def peekSecond : Parse (Option Token) := do return ((← get).tokens.drop 1).head?

def nextToken : Parse Token := do
  let s ← get
  match s.tokens with
  | t :: rest => set { s with tokens := rest, taken := s.taken + 1 }; return t
  | [] => throw "incomplete input"

/-- The number of tokens taken so far: the mark of the next token. -/
def tokenMark : Parse Nat := do return (← get).taken

/-- The text as written from the token at mark `first` to the token at mark `last`; empty when
`last` comes before `first`. -/
def textOfTokens (first last : Nat) : Parse String := do
  let s ← get
  match s.places[first]?, s.places[last]? with
  | some (a, _), some (_, b) =>
    if first ≤ last then return String.ofList ((s.source.toList.drop a).take (b - a)) else return ""
  | _, _ => return ""

/-- The text as written from the token at a mark to the last token taken. -/
def textFrom (first : Nat) : Parse String := do textOfTokens first ((← get).taken - 1)

def Token.isWord (t : Token) (kw : String) : Bool :=
  match t with
  | .word w => w.toLower == kw
  | _ => false

def Token.isSymbol (t : Token) (s : String) : Bool :=
  match t with
  | .symbol x => x == s
  | _ => false

def atWord (kw : String) : Parse Bool := do
  return ((← peekToken).map (·.isWord kw)).getD false

def atSymbol (s : String) : Parse Bool := do
  return ((← peekToken).map (·.isSymbol s)).getD false

def acceptWord (kw : String) : Parse Bool := do
  if ← atWord kw then
    let _ ← nextToken
    return true
  else return false

def acceptSymbol (s : String) : Parse Bool := do
  if ← atSymbol s then
    let _ ← nextToken
    return true
  else return false

def expectWord (kw : String) : Parse Unit := do
  unless ← acceptWord kw do throw ("expected " ++ kw)

def expectSymbol (s : String) : Parse Unit := do
  unless ← acceptSymbol s do throw ("expected " ++ s)

/-- Reads an identifier: a quoted one or a word the grammar does not reserve. -/
def identifier : Parse String := do
  match ← nextToken with
  | .quoted q => return q
  | .word w => if isReserved w then throw ("reserved " ++ w) else return w
  | _ => throw "expected a name"

def nameToken : Parse String := do
  match ← peekToken with
  | some (.string s) =>
    let _ ← nextToken
    return s
  | _ => identifier

def qualifiedName : Parse String := do
  let n ← nameToken
  if ← acceptSymbol "." then nameToken else return n

def atQueryStart : Parse Bool := do
  return (← atWord "select") || (← atWord "values") || (← atWord "with")

/-- Whether a token can be a name without quotes or with them. -/
def Token.isName (t : Token) : Bool :=
  match t with
  | .word w => !isReserved w
  | .quoted _ => true
  | _ => false

/-- Whether a `WINDOW` clause comes next: the word, a name and `AS`. Elsewhere the word is a
name. -/
def atWindowClause : Parse Bool := do
  match (← get).tokens with
  | w :: n :: a :: _ => return w.isWord "window" && n.isName && a.isWord "as"
  | _ => return false

/-- Whether an `OVER` clause comes next: the word and then a parenthesis or a name. Elsewhere the
word is a name. -/
def atOverClause : Parse Bool := do
  match (← get).tokens with
  | w :: n :: _ => return w.isWord "over" && (n.isSymbol "(" || n.isName)
  | _ => return false

/-- Reads an alias after an optional `AS`: with `AS` any name, without it only an identifier or a
string that the grammar does not reserve. -/
def optionalAlias : Parse (Option String) := do
  if ← acceptWord "as" then return some (← nameToken)
  if ← atWindowClause then return none
  match ← peekToken with
  | some (.quoted q) =>
    let _ ← nextToken
    return some q
  | some (.string s) =>
    let _ ← nextToken
    return some s
  | some (.word w) =>
    if isReserved w then return none
    else
      let _ ← nextToken
      return some w
  | _ => return none

/-- Reads a type name: words, with up to two signed numbers in parentheses, written back with
single blanks. -/
def typeName : Parse String := do
  let stop := ["constraint", "primary", "not", "null", "unique", "check", "default", "collate",
    "references", "generated", "as"]
  let rec words : Nat → List String → Parse (List String)
    | 0, acc => return acc.reverse
    | fuel + 1, acc => do
      match ← peekToken with
      | some (.word w) =>
        if isReserved w || stop.contains w.toLower then return acc.reverse
        else
          let _ ← nextToken
          words fuel (w :: acc)
      | some (.quoted q) =>
        let _ ← nextToken
        words fuel (q :: acc)
      | some (.string q) =>
        let _ ← nextToken
        words fuel (q :: acc)
      | _ => return acc.reverse
  let ws ← words ((← get).tokens.length + 1) []
  let base := " ".intercalate ws
  if !ws.isEmpty && (← acceptSymbol "(") then
    let signed : Parse String := do
      let sign ← do
        if ← acceptSymbol "-" then pure "-" else if ← acceptSymbol "+" then pure "+" else pure ""
      match ← nextToken with
      | .number t _ => return sign ++ t
      | .word w => return sign ++ w
      | _ => throw "expected a size"
    let a ← signed
    let b ← if ← acceptSymbol "," then some <$> signed else pure none
    expectSymbol ")"
    return base ++ "(" ++ a ++ (match b with | some x => "," ++ x | none => "") ++ ")"
  else return base

def paramNumber (name : String) : Parse Nat := do
  let s ← get
  if name == "?" then
    set { s with lastParam := s.lastParam + 1 }
    return s.lastParam + 1
  else if name.startsWith "?" then
    let n := (name.drop 1).toString.toNat!
    if n = 0 then throw "bad parameter"
    set { s with lastParam := max s.lastParam n }
    return n
  else
    match s.named.lookup name with
    | some n => return n
    | none =>
      set { s with named := (name, s.lastParam + 1) :: s.named, lastParam := s.lastParam + 1 }
      return s.lastParam + 1

/-- The operator of a binary level taking a token, if the token is one. Levels: 0 `OR`, 1 `AND`,
4 comparisons, 5 bit operators, 6 additive, 7 multiplicative, 8 concatenation and extraction. -/
def levelOperator (level : Nat) (t : Token) : Option BinaryOp :=
  match level, t with
  | 0, .word w => if w.toLower == "or" then some .or else none
  | 1, .word w => if w.toLower == "and" then some .and else none
  | 4, .symbol "<" => some .lt
  | 4, .symbol "<=" => some .le
  | 4, .symbol ">" => some .gt
  | 4, .symbol ">=" => some .ge
  | 5, .symbol "&" => some .bitAnd
  | 5, .symbol "|" => some .bitOr
  | 5, .symbol "<<" => some .shiftLeft
  | 5, .symbol ">>" => some .shiftRight
  | 6, .symbol "+" => some .add
  | 6, .symbol "-" => some .sub
  | 7, .symbol "*" => some .mul
  | 7, .symbol "/" => some .div
  | 7, .symbol "%" => some .rem
  | 8, .symbol "||" => some .concat
  | 8, .symbol "->" => some .extract
  | 8, .symbol "->>" => some .extractText
  | _, _ => none

/-- An `AND` of two expressions. When either side is the literal zero the whole is that zero
and the other side is never computed: the parser folds it so. -/
def andOf (a b : Expr) : Expr :=
  if a.smallInt? == some 0 || b.smallInt? == some 0 then .number "0" false else .binary .and a b

def matchOperator (t : Token) : Option MatchOp :=
  if t.isWord "like" then some .like
  else if t.isWord "glob" then some .glob
  else if t.isWord "regexp" then some .regexp
  else if t.isWord "match" then some .matchOp
  else none

def raiseAction (w : String) : Option RaiseAction :=
  match w.toLower with
  | "ignore" => some .ignore
  | "rollback" => some .rollback
  | "abort" => some .abort
  | "fail" => some .fail
  | _ => none

def nameAfterDot : Parse String := do
  match ← nextToken with
  | .quoted q => return q
  | .word w => return w
  | .string s => return s
  | _ => throw "expected a name"

mutual

def expr : Nat → Parse Expr
  | 0 => throw "too deep"
  | fuel + 1 => level fuel 0

/-- Reads an expression at a binding level (see `levelOperator`; 2 is `NOT`, 3 the equality
group, 9 `COLLATE`, 10 prefix operators, 11 primaries). -/
def level : Nat → Nat → Parse Expr
  | 0, _ => throw "too deep"
  | fuel + 1, n =>
    if n = 2 then do
      if ← acceptWord "not" then return .unary .not (← level fuel 2)
      else level fuel 3
    else if n = 3 then do
      let lhs ← level fuel 4
      equalityTail fuel lhs
    else if n = 9 then do
      let e ← level fuel 10
      collateTail fuel e
    else if n = 10 then do
      if ← acceptSymbol "-" then return .unary .negate (← level fuel 10)
      else if ← acceptSymbol "+" then return .unary .plus (← level fuel 10)
      else if ← acceptSymbol "~" then return .unary .bitNot (← level fuel 10)
      else if ← acceptWord "not" then return .unary .not (← level fuel 2)
      else primary fuel
    else if n ≥ 11 then primary fuel
    else do
      let lhs ← level fuel (n + 1)
      binaryTail fuel n lhs

/-- Reads more operators of a binary level after its left operand. -/
def binaryTail : Nat → Nat → Expr → Parse Expr
  | 0, _, _ => throw "too deep"
  | fuel + 1, n, lhs => do
    match (← peekToken).bind (levelOperator n) with
    | some op =>
      let _ ← nextToken
      let rhs ← level fuel (n + 1)
      binaryTail fuel n (if op == .and then andOf lhs rhs else .binary op lhs rhs)
    | none => return lhs

def collateTail : Nat → Expr → Parse Expr
  | 0, _ => throw "too deep"
  | fuel + 1, e => do
    if ← acceptWord "collate" then
      let name ← nameToken
      collateTail fuel (.collate e name)
    else return e

/-- Reads the rest of an `IN` after its keyword. -/
def inRest : Nat → Bool → Expr → Parse Expr
  | 0, _, _ => throw "too deep"
  | fuel + 1, negated, lhs => do
    if ← acceptSymbol "(" then
      if ← atQueryStart then
        let q ← query fuel
        expectSymbol ")"
        return .inQuery negated lhs q
      else if ← acceptSymbol ")" then return .inList negated lhs []
      else
        let items ← exprList fuel
        expectSymbol ")"
        return .inList negated lhs items
    else
      let name ← qualifiedName
      return .inQuery negated lhs
        (.mk false [] (.select false [.all] (some (.table name none)) none [] none []) [] [] none none)

def equalityTail : Nat → Expr → Parse Expr
  | 0, _ => throw "too deep"
  | fuel + 1, lhs => do
    let some t ← peekToken | return lhs
    if t.isSymbol "=" || t.isSymbol "==" then
      let _ ← nextToken
      equalityTail fuel (.binary .eq lhs (← level fuel 4))
    else if t.isSymbol "!=" || t.isSymbol "<>" then
      let _ ← nextToken
      equalityTail fuel (.binary .ne lhs (← level fuel 4))
    else if t.isWord "is" then
      let _ ← nextToken
      let neg ← acceptWord "not"
      let distinct ← acceptWord "distinct"
      if distinct then expectWord "from"
      let rhs ← level fuel 4
      equalityTail fuel (.binary (if neg != distinct then .isNot else .is) lhs rhs)
    else if t.isWord "isnull" then
      let _ ← nextToken
      equalityTail fuel (.isNull false lhs)
    else if t.isWord "notnull" then
      let _ ← nextToken
      equalityTail fuel (.isNull true lhs)
    else
      let (negated, t) ← if t.isWord "not" then do
          match ← peekSecond with
          | some t2 => pure (true, t2)
          | none => pure (false, t)
        else pure (false, t)
      if negated && t.isWord "null" then
        let _ ← nextToken
        let _ ← nextToken
        equalityTail fuel (.isNull true lhs)
      else if let some op := matchOperator t then
        if negated then let _ ← nextToken
        let _ ← nextToken
        let pattern ← level fuel 4
        let escape ← if ← acceptWord "escape" then some <$> level fuel 5 else pure none
        equalityTail fuel (.matching op negated lhs pattern escape)
      else if t.isWord "between" then
        if negated then let _ ← nextToken
        let _ ← nextToken
        -- The low bound reaches up to the `AND` that ends it: a `NOT` or an operator of the
        -- equality group stays inside it.
        let lo ← level fuel 2
        expectWord "and"
        let hi ← level fuel 4
        equalityTail fuel (.between negated lhs lo hi)
      else if t.isWord "in" then
        if negated then let _ ← nextToken
        let _ ← nextToken
        equalityTail fuel (← inRest fuel negated lhs)
      else return lhs

def exprList : Nat → Parse (List Expr)
  | 0 => throw "too deep"
  | fuel + 1 => do
    let e ← expr fuel
    if ← acceptSymbol "," then return e :: (← exprList fuel) else return [e]

/-- Reads the `WHEN … THEN …` arms of a `CASE`. -/
def caseArms : Nat → Parse (List (Expr × Expr))
  | 0 => throw "too deep"
  | fuel + 1 => do
    if ← acceptWord "when" then
      let c ← expr fuel
      expectWord "then"
      let v ← expr fuel
      return (c, v) :: (← caseArms fuel)
    else return []

/-- Reads the arguments of a function call after its opening parenthesis, then its filter and
its window. -/
def callRest : Nat → String → Parse Expr
  | 0, _ => throw "too deep"
  | fuel + 1, name => do
    let (distinct, star, args) ← do
      if ← acceptSymbol "*" then pure (false, true, [])
      else if ← atSymbol ")" then pure (false, false, [])
      else
        let distinct ← acceptWord "distinct"
        if !distinct then let _ ← acceptWord "all"
        pure (distinct, false, ← exprList fuel)
    let orderBy ← if !args.isEmpty && (← acceptWord "order") then do
        expectWord "by"
        orderTerms fuel
      else pure []
    expectSymbol ")"
    let filter ← if ← acceptWord "filter" then do
        expectSymbol "("
        expectWord "where"
        let f ← expr fuel
        expectSymbol ")"
        pure (some f)
      else pure none
    let overClause ← if ← atOverClause then do
        let _ ← nextToken
        if ← acceptSymbol "(" then
          let w ← windowBody fuel
          expectSymbol ")"
          pure (some w)
        else pure (some (Window.mk (some (← identifier)) [] [] none))
      else pure none
    return .call name distinct star args orderBy filter overClause

/-- Reads a window definition inside its parentheses: an optional window it builds on, then
`PARTITION BY`, `ORDER BY` and a frame, each optional. -/
def windowBody : Nat → Parse Window
  | 0 => throw "too deep"
  | fuel + 1 => do
    let base ← match ← peekToken with
      | some (.word w) =>
        if isReserved w || ["partition", "range", "rows", "groups"].contains w.toLower then pure none
        else do
          let _ ← nextToken
          pure (some w)
      | some (.quoted q) => do
        let _ ← nextToken
        pure (some q)
      | _ => pure none
    let partition ← if ← acceptWord "partition" then do
        expectWord "by"
        exprList fuel
      else pure []
    let orderBy ← if ← acceptWord "order" then do
        expectWord "by"
        orderTerms fuel
      else pure []
    let unit? ← if ← acceptWord "rows" then pure (some FrameUnit.rows)
      else if ← acceptWord "range" then pure (some FrameUnit.range)
      else if ← acceptWord "groups" then pure (some FrameUnit.groups)
      else pure none
    match unit? with
    | none => return .mk base partition orderBy none
    | some unit =>
      let (start, finish) ← if ← acceptWord "between" then do
          let a ← frameBound fuel true
          expectWord "and"
          let b ← frameBound fuel false
          pure (a, b)
        else pure (← frameBound fuel true, FrameBound.currentRow)
      let exclude ← if ← acceptWord "exclude" then do
          if ← acceptWord "no" then do
            expectWord "others"
            pure FrameExclude.noOthers
          else if ← acceptWord "current" then do
            expectWord "row"
            pure FrameExclude.currentRow
          else if ← acceptWord "group" then pure FrameExclude.group
          else do
            expectWord "ties"
            pure FrameExclude.ties
        else pure FrameExclude.noOthers
      return .mk base partition orderBy (some (.mk unit start finish exclude))

/-- Reads one end of a window frame; `UNBOUNDED FOLLOWING` cannot start a frame and
`UNBOUNDED PRECEDING` cannot end one. -/
def frameBound : Nat → Bool → Parse FrameBound
  | 0, _ => throw "too deep"
  | fuel + 1, isStart => do
    if ← acceptWord "unbounded" then
      if ← acceptWord "preceding" then
        if isStart then return .unboundedPreceding else throw "syntax error near PRECEDING"
      expectWord "following"
      if isStart then throw "syntax error near FOLLOWING" else return .unboundedFollowing
    if ← acceptWord "current" then
      expectWord "row"
      return .currentRow
    let e ← expr fuel
    if ← acceptWord "preceding" then return .preceding e
    expectWord "following"
    return .following e

/-- Reads the windows a `WINDOW` clause names, each `name AS (definition)`. -/
def windowDefs : Nat → Parse (List (String × Window))
  | 0 => throw "too deep"
  | fuel + 1 => do
    let name ← identifier
    expectWord "as"
    expectSymbol "("
    let w ← windowBody fuel
    expectSymbol ")"
    if ← acceptSymbol "," then return (name, w) :: (← windowDefs fuel) else return [(name, w)]

def primary : Nat → Parse Expr
  | 0 => throw "too deep"
  | fuel + 1 => do
    match ← nextToken with
    | .number t r => return .number t r
    | .string s => return .literal (.text s)
    | .blob b => return .literal (.blob b)
    | .param p => return .param (← paramNumber p)
    | .symbol "(" =>
      if ← atQueryStart then
        let q ← query fuel
        expectSymbol ")"
        return .scalar q
      else
        let items ← exprList fuel
        expectSymbol ")"
        match items with
        | [e] => return e
        | _ => return .row items
    | .quoted q => nameExpr fuel q true
    | .word w =>
      let lw := w.toLower
      if lw == "null" then return .literal .null
      else if lw == "case" then
        let operand ← if ← atWord "when" then pure none else some <$> expr fuel
        let arms ← caseArms fuel
        if arms.isEmpty then throw "CASE without WHEN"
        let otherwise ← if ← acceptWord "else" then some <$> expr fuel else pure none
        expectWord "end"
        return .caseOf operand arms otherwise
      else if lw == "cast" && (← atSymbol "(") then
        expectSymbol "("
        let e ← expr fuel
        expectWord "as"
        let ty ← typeName
        expectSymbol ")"
        return .cast e ty
      else if lw == "exists" then
        expectSymbol "("
        let q ← query fuel
        expectSymbol ")"
        return .exists q
      else if lw == "raise" && (← atSymbol "(") then
        expectSymbol "("
        let a ← identifier
        match raiseAction a with
        | some .ignore =>
          expectSymbol ")"
          return .raise .ignore ""
        | some act =>
          expectSymbol ","
          let msg ← match ← nextToken with
            | .string s => pure s
            | _ => throw "expected a message"
          expectSymbol ")"
          return .raise act msg
        | none => throw "bad RAISE"
      else if (lw == "current_time" || lw == "current_date" || lw == "current_timestamp") then
        return .call lw false false [] [] none none
      else if isReserved w then throw ("unexpected " ++ w)
      else nameExpr fuel w false
    | _ => throw "unexpected token"

/-- Reads what follows a name in an expression: a call, a qualified column or a column. -/
def nameExpr : Nat → String → Bool → Parse Expr
  | 0, _, _ => throw "too deep"
  | fuel + 1, name, quoted => do
    if ← acceptSymbol "(" then callRest fuel name
    else if ← acceptSymbol "." then
      let second ← nameAfterDot
      if ← acceptSymbol "." then
        let third ← nameAfterDot
        return .column (some second) third false
      else return .column (some name) second false
    else return .column none name quoted

def query : Nat → Parse Query
  | 0 => throw "too deep"
  | fuel + 1 => do
    let (recursive, ctes) ← if ← acceptWord "with" then do
        let r ← acceptWord "recursive"
        pure (r, ← cteList fuel)
      else pure (false, [])
    let first ← core fuel
    let rest ← compoundTail fuel
    let orderBy ← if ← acceptWord "order" then do
        expectWord "by"
        orderTerms fuel
      else pure []
    let (limit, offset) ← if ← acceptWord "limit" then do
        let a ← expr fuel
        if ← acceptWord "offset" then pure (some a, some (← expr fuel))
        else if ← acceptSymbol "," then
          let b ← expr fuel
          pure (some b, some a)
        else pure (some a, none)
      else pure (none, none)
    return .mk recursive ctes first rest orderBy limit offset

def cteList : Nat → Parse (List Cte)
  | 0 => throw "too deep"
  | fuel + 1 => do
    let name ← nameToken
    let columns ← if ← acceptSymbol "(" then do
        let cs ← nameList fuel
        expectSymbol ")"
        pure cs
      else pure []
    expectWord "as"
    let negated ← acceptWord "not"
    let materialized ← acceptWord "materialized"
    expectSymbol "("
    let q ← query fuel
    expectSymbol ")"
    let c := Cte.mk name columns (materialized && !negated) q
    if ← acceptSymbol "," then return c :: (← cteList fuel) else return [c]

def nameList : Nat → Parse (List String)
  | 0 => throw "too deep"
  | fuel + 1 => do
    let n ← nameToken
    if ← acceptSymbol "," then return n :: (← nameList fuel) else return [n]

/-- Reads the selects after the first, each after its set operator. -/
def compoundTail : Nat → Parse (List (CompoundOp × Core))
  | 0 => throw "too deep"
  | fuel + 1 => do
    let op? ← if ← acceptWord "union" then
        if ← acceptWord "all" then pure (some CompoundOp.unionAll) else pure (some CompoundOp.union)
      else if ← acceptWord "intersect" then pure (some CompoundOp.intersect)
      else if ← acceptWord "except" then pure (some CompoundOp.except)
      else pure none
    match op? with
    | some op =>
      let c ← core fuel
      return (op, c) :: (← compoundTail fuel)
    | none => return []

def core : Nat → Parse Core
  | 0 => throw "too deep"
  | fuel + 1 => do
    if ← acceptWord "values" then return .values (← valueRows fuel)
    expectWord "select"
    let distinct ← acceptWord "distinct"
    if !distinct then let _ ← acceptWord "all"
    let columns ← resultColumns fuel
    let source ← if ← acceptWord "from" then some <$> source fuel else pure none
    let filter ← if ← acceptWord "where" then some <$> expr fuel else pure none
    let groupBy ← if ← acceptWord "group" then do
        expectWord "by"
        exprList fuel
      else pure []
    let having ← if ← acceptWord "having" then some <$> expr fuel else pure none
    let windows ← if ← atWindowClause then do
        let _ ← nextToken
        windowDefs fuel
      else pure []
    return .select distinct columns source filter groupBy having windows

def valueRows : Nat → Parse (List (List Expr))
  | 0 => throw "too deep"
  | fuel + 1 => do
    expectSymbol "("
    let row ← exprList fuel
    expectSymbol ")"
    if ← acceptSymbol "," then return row :: (← valueRows fuel) else return [row]

def resultColumns : Nat → Parse (List ResultColumn)
  | 0 => throw "too deep"
  | fuel + 1 => do
    let c ← resultColumn fuel
    if ← acceptSymbol "," then return c :: (← resultColumns fuel) else return [c]

def resultColumn : Nat → Parse ResultColumn
  | 0 => throw "too deep"
  | fuel + 1 => do
    if ← acceptSymbol "*" then return .all
    let s ← get
    let tableStar : Option String := match s.tokens with
      | .word w :: .symbol "." :: .symbol "*" :: _ => if isReserved w then none else some w
      | .quoted q :: .symbol "." :: .symbol "*" :: _ => some q
      | _ => none
    match tableStar with
    | some t =>
      set { s with tokens := s.tokens.drop 3, taken := s.taken + 3 }
      return .allOf t
    | none =>
      let mark ← tokenMark
      let e ← expr fuel
      let text ← textFrom mark
      return .expr e (← optionalAlias) text

def orderTerms : Nat → Parse (List OrderTerm)
  | 0 => throw "too deep"
  | fuel + 1 => do
    let e ← expr fuel
    let desc ← if ← acceptWord "desc" then pure true else do
      let _ ← acceptWord "asc"
      pure false
    let nulls ← if ← acceptWord "nulls" then do
        if ← acceptWord "first" then pure NullsOrder.first
        else do
          expectWord "last"
          pure NullsOrder.last
      else pure NullsOrder.natural
    let t := OrderTerm.mk e desc nulls
    if ← acceptSymbol "," then return t :: (← orderTerms fuel) else return [t]

/-- Reads the source of a select: tables, subqueries and joins. -/
def source : Nat → Parse Source
  | 0 => throw "too deep"
  | fuel + 1 => do
    let first ← singleSource fuel
    if ← atWord "on" then throw "a join constraint needs a join"
    joinTail fuel first

/-- Reads the join operator and constraint of each further source. -/
def joinTail : Nat → Source → Parse Source
  | 0, _ => throw "too deep"
  | fuel + 1, left => do
    let joined : Option (Bool × JoinKind) ← do
      if ← acceptSymbol "," then pure (some (false, JoinKind.inner))
      else
        let natural ← acceptWord "natural"
        let kind? ← if ← acceptWord "left" then do
            let _ ← acceptWord "outer"
            pure (some JoinKind.left)
          else if ← acceptWord "right" then do
            let _ ← acceptWord "outer"
            pure (some JoinKind.right)
          else if ← acceptWord "full" then do
            let _ ← acceptWord "outer"
            pure (some JoinKind.full)
          else if ← acceptWord "inner" then pure (some JoinKind.inner)
          else if ← acceptWord "cross" then pure (some JoinKind.cross)
          else pure none
        if ← acceptWord "join" then pure (some (natural, kind?.getD .inner))
        else if natural || kind?.isSome then throw "expected JOIN"
        else pure none
    match joined with
    | none => return left
    | some (natural, kind) =>
      let right ← singleSource fuel
      let on ← if ← acceptWord "on" then some <$> expr fuel else pure none
      let usingColumns ← if on.isNone && (← acceptWord "using") then do
          expectSymbol "("
          let cs ← nameList fuel
          expectSymbol ")"
          pure cs
        else pure []
      joinTail fuel (.join left natural kind right on usingColumns)

/-- Reads one table, table function, subquery or parenthesized join. -/
def singleSource : Nat → Parse Source
  | 0 => throw "too deep"
  | fuel + 1 => do
    if ← acceptSymbol "(" then
      if ← atQueryStart then
        let q ← query fuel
        expectSymbol ")"
        return .query q (← optionalAlias)
      else
        let s ← source fuel
        expectSymbol ")"
        let _ ← optionalAlias
        return s
    else
      let name ← qualifiedName
      if ← acceptSymbol "(" then
        let args ← if ← atSymbol ")" then pure [] else exprList fuel
        expectSymbol ")"
        return .function name args (← optionalAlias)
      let asName ← optionalAlias
      if ← acceptWord "indexed" then
        expectWord "by"
        let _ ← nameToken
      else if (← atWord "not") && ((← peekSecond).map (·.isWord "indexed")).getD false then
        let _ ← nextToken
        let _ ← nextToken
      return .table name asName

end

def parseFuel (tokens : List Token) : Nat := 64 * (tokens.length + 4)

end RosterSync.Database
