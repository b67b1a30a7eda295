import RosterSync.Database.ParseQuery

/-!
Reading statements from tokens.

A script is statements separated by semicolons, empty ones allowed. `EXPLAIN` before a statement
makes it run nothing. Table definitions take column definitions (a name, an optional type and
constraints) and table constraints, separated by commas (commas between table constraints may be
left out), then `WITHOUT ROWID` and `STRICT`. Insertions take their rows from `VALUES`, a query
or `DEFAULT VALUES`, followed by upsert clauses and `RETURNING`; `REPLACE INTO` is
`INSERT OR REPLACE INTO`. A trigger's body is statements each ended by a semicolon, between
`BEGIN` and `END`.
-/

namespace RosterSync.Database

def conflictName : Parse Conflict := do
  match ← nextToken with
  | .word w =>
    match w.toLower with
    | "rollback" => return .rollback
    | "abort" => return .abort
    | "fail" => return .fail
    | "ignore" => return .ignore
    | "replace" => return .replace
    | _ => throw "bad conflict resolution"
  | _ => throw "bad conflict resolution"

/-- Reads an optional `ON CONFLICT` clause of a constraint. -/
def conflictClause : Parse (Option Conflict) := do
  if (← atWord "on") && ((← peekSecond).map (·.isWord "conflict")).getD false then
    let _ ← nextToken
    let _ ← nextToken
    return some (← conflictName)
  else return none

def keyAction : Parse KeyAction := do
  if ← acceptWord "cascade" then return .cascade
  if ← acceptWord "restrict" then return .restrict
  if ← acceptWord "set" then
    if ← acceptWord "null" then return .setNull
    expectWord "default"
    return .setDefault
  expectWord "no"
  expectWord "action"
  return .noAction

/-- Reads the clauses of a foreign key after `REFERENCES`. -/
def foreignKeyRest (fuel : Nat) : Parse ForeignKey := do
  let parent ← nameToken
  let columns ← if ← acceptSymbol "(" then do
      let cs ← nameList fuel
      expectSymbol ")"
      pure cs
    else pure []
  let rec clauses : Nat → KeyAction → KeyAction → Parse (KeyAction × KeyAction)
    | 0, d, u => return (d, u)
    | n + 1, d, u => do
      if (← atWord "on") && !(((← peekSecond).map (·.isWord "conflict")).getD false) then
        let _ ← nextToken
        if ← acceptWord "delete" then clauses n (← keyAction) u
        else
          expectWord "update"
          clauses n d (← keyAction)
      else if ← acceptWord "match" then
        let _ ← nameToken
        clauses n d u
      else if (← atWord "not") && ((← peekSecond).map (·.isWord "deferrable")).getD false then
        let _ ← nextToken
        let _ ← nextToken
        if ← acceptWord "initially" then let _ ← nextToken
        clauses n d u
      else if ← acceptWord "deferrable" then
        if ← acceptWord "initially" then let _ ← nextToken
        clauses n d u
      else return (d, u)
  let (d, u) ← clauses 16 .noAction .noAction
  return { parent, parentColumns := columns, onDelete := d, onUpdate := u }

/-- Reads the value of a `DEFAULT`: a literal, a signed number, a name (read as text, `TRUE`
and `FALSE` as numbers) or a parenthesized expression. -/
def defaultValue (fuel : Nat) : Parse Expr := do
  if ← acceptSymbol "(" then
    let e ← expr fuel
    expectSymbol ")"
    return e
  if ← acceptSymbol "-" then
    match ← nextToken with
    | .number t r => return .unary .negate (.number t r)
    | _ => throw "bad default"
  if ← acceptSymbol "+" then
    match ← nextToken with
    | .number t r => return .number t r
    | _ => throw "bad default"
  match ← nextToken with
  | .number t r => return .number t r
  | .string s => return .literal (.text s)
  | .blob b => return .literal (.blob b)
  | .quoted q => return .literal (.text q)
  | .word w =>
    match w.toLower with
    | "null" => return .literal .null
    | "true" => return .literal (.integer 1)
    | "false" => return .literal (.integer 0)
    | "current_time" | "current_date" | "current_timestamp" => return .call w.toLower false false [] [] none none
    | _ => if isReserved w then throw "bad default" else return .literal (.text w)
  | _ => throw "bad default"

def columnConstraints : Nat → Parse (List ColumnConstraint)
  | 0 => return []
  | fuel + 1 => do
    if ← acceptWord "constraint" then let _ ← nameToken
    if ← acceptWord "primary" then
      expectWord "key"
      let desc ← if ← acceptWord "desc" then pure true else do
        let _ ← acceptWord "asc"
        pure false
      let c ← conflictClause
      let auto ← acceptWord "autoincrement"
      return .primaryKey desc c auto :: (← columnConstraints fuel)
    if (← atWord "not") && ((← peekSecond).map (·.isWord "null")).getD false then
      let _ ← nextToken
      let _ ← nextToken
      let c ← conflictClause
      return .notNull c :: (← columnConstraints fuel)
    if ← acceptWord "null" then
      let _ ← conflictClause
      columnConstraints fuel
    else if ← acceptWord "unique" then
      let c ← conflictClause
      return .unique c :: (← columnConstraints fuel)
    else if ← acceptWord "check" then
      expectSymbol "("
      let e ← expr fuel
      expectSymbol ")"
      return .check e :: (← columnConstraints fuel)
    else if ← acceptWord "default" then
      let m ← tokenMark
      let paren ← atSymbol "("
      let e ← defaultValue fuel
      let last := (← tokenMark) - 1
      let text ← if paren then textOfTokens (m + 1) (last - 1) else textOfTokens m last
      return .default e text :: (← columnConstraints fuel)
    else if ← acceptWord "collate" then
      let n ← nameToken
      return .collate n :: (← columnConstraints fuel)
    else if ← acceptWord "references" then
      let fk ← foreignKeyRest fuel
      return .references fk :: (← columnConstraints fuel)
    else if (← atWord "generated") || (← atWord "as") then
      if ← acceptWord "generated" then expectWord "always"
      expectWord "as"
      expectSymbol "("
      let e ← expr fuel
      expectSymbol ")"
      let stored ← if ← acceptWord "stored" then pure true else do
        let _ ← acceptWord "virtual"
        pure false
      return .generated e stored :: (← columnConstraints fuel)
    else return []

def columnDef (fuel : Nat) : Parse ColumnDef := do
  let name ← nameToken
  let ty ← typeName
  let cs ← columnConstraints fuel
  return { name, typeName := ty, constraints := cs }

def indexedColumns : Nat → Parse (List IndexedColumn)
  | 0 => throw "too deep"
  | fuel + 1 => do
    let e ← expr fuel
    let (e, coll) := match e with
      | .collate inner c => (inner, some c)
      | _ => (e, none)
    let desc ← if ← acceptWord "desc" then pure true else do
      let _ ← acceptWord "asc"
      pure false
    let c : IndexedColumn := { expr := e, collation := coll, desc }
    if ← acceptSymbol "," then return c :: (← indexedColumns fuel) else return [c]

def atTableConstraint : Parse Bool := do
  return (← atWord "constraint") || (← atWord "primary") || (← atWord "unique") ||
    (← atWord "check") || (← atWord "foreign")

def tableConstraint (fuel : Nat) : Parse TableConstraint := do
  if ← acceptWord "constraint" then let _ ← nameToken
  if ← acceptWord "primary" then
    expectWord "key"
    expectSymbol "("
    let cols ← indexedColumns fuel
    let auto ← acceptWord "autoincrement"
    expectSymbol ")"
    return .primaryKey cols (← conflictClause) auto
  if ← acceptWord "unique" then
    expectSymbol "("
    let cols ← indexedColumns fuel
    expectSymbol ")"
    return .unique cols (← conflictClause)
  if ← acceptWord "check" then
    expectSymbol "("
    let e ← expr fuel
    expectSymbol ")"
    let _ ← conflictClause
    return .check e
  expectWord "foreign"
  expectWord "key"
  expectSymbol "("
  let cols ← nameList fuel
  expectSymbol ")"
  expectWord "references"
  return .foreignKey cols (← foreignKeyRest fuel)

/-- Reads the body of a table definition after its opening parenthesis: columns, then table
constraints; with the mark of the token that ends the columns (the comma before the first
table constraint, or the closing parenthesis). -/
def tableBody : Nat → Bool → Parse (List ColumnDef × List TableConstraint × Nat)
  | 0, _ => throw "too deep"
  | fuel + 1, inConstraints => do
    if inConstraints || (← atTableConstraint) then
      let c ← tableConstraint fuel
      if ← acceptSymbol ")" then return ([], [c], 0)
      let _ ← acceptSymbol ","
      let (cols, cs, _) ← tableBody fuel true
      if !cols.isEmpty then throw "column after constraint"
      return ([], c :: cs, 0)
    else
      let col ← columnDef fuel
      let m ← tokenMark
      if ← acceptSymbol ")" then return ([col], [], m)
      expectSymbol ","
      let atConstraints ← atTableConstraint
      let (cols, cs, split) ← tableBody fuel false
      return (col :: cols, cs, if atConstraints then m else split)

def tableOptions : Nat → Bool → Bool → Parse (Bool × Bool)
  | 0, w, s => return (w, s)
  | fuel + 1, w, s => do
    if ← acceptWord "without" then
      let r ← identifier
      if r.toLower != "rowid" then throw "bad table option"
      if ← acceptSymbol "," then tableOptions fuel true s else return (true, s)
    else if ← acceptWord "strict" then
      if ← acceptSymbol "," then tableOptions fuel w true else return (w, true)
    else return (w, s)

def assignments : Nat → Parse Assignments
  | 0 => throw "too deep"
  | fuel + 1 => do
    let cols ← if ← acceptSymbol "(" then do
        let cs ← nameList fuel
        expectSymbol ")"
        pure cs
      else pure [← nameToken]
    expectSymbol "="
    let e ← expr fuel
    if ← acceptSymbol "," then return (cols, e) :: (← assignments fuel) else return [(cols, e)]

def returningClause (fuel : Nat) : Parse (List ResultColumn) := do
  if ← acceptWord "returning" then resultColumns fuel else return []

def upserts : Nat → Parse (List Upsert)
  | 0 => return []
  | fuel + 1 => do
    if (← atWord "on") && ((← peekSecond).map (·.isWord "conflict")).getD false then
      let _ ← nextToken
      let _ ← nextToken
      let target ← if ← acceptSymbol "(" then do
          let cols ← indexedColumns fuel
          expectSymbol ")"
          let w ← if ← acceptWord "where" then some <$> expr fuel else pure none
          pure (some (cols, w))
        else pure none
      expectWord "do"
      let action ← if ← acceptWord "nothing" then pure none else do
        expectWord "update"
        expectWord "set"
        let sets ← assignments fuel
        let w ← if ← acceptWord "where" then some <$> expr fuel else pure none
        pure (some (sets, w))
      return { target, action } :: (← upserts fuel)
    else return []

def insertRest (fuel : Nat) (conflict : Option Conflict) : Parse Statement := do
  expectWord "into"
  let table ← qualifiedName
  let asName ← if ← acceptWord "as" then some <$> nameToken else pure none
  let columns ← if ← acceptSymbol "(" then do
      let cs ← nameList fuel
      expectSymbol ")"
      pure (some cs)
    else pure none
  let source ← if ← acceptWord "default" then do
      expectWord "values"
      pure none
    else some <$> query fuel
  let ups ← upserts fuel
  let ret ← returningClause fuel
  return .insert conflict table asName columns source ups ret

/-- Reads an optional `OR` conflict clause of an insertion or update. -/
def orConflict : Parse (Option Conflict) := do
  if ← acceptWord "or" then return some (← conflictName) else return none

def changeStatement (fuel : Nat) : Parse Statement := do
  if ← acceptWord "insert" then insertRest fuel (← orConflict)
  else if ← acceptWord "replace" then insertRest fuel (some .replace)
  else if ← acceptWord "update" then
    let c ← orConflict
    let table ← qualifiedName
    let asName ← optionalAlias
    if ← acceptWord "indexed" then
      expectWord "by"
      let _ ← nameToken
    else if (← atWord "not") && ((← peekSecond).map (·.isWord "indexed")).getD false then
      let _ ← nextToken
      let _ ← nextToken
    expectWord "set"
    let sets ← assignments fuel
    let src ← if ← acceptWord "from" then some <$> source fuel else pure none
    let filter ← if ← acceptWord "where" then some <$> expr fuel else pure none
    let ret ← returningClause fuel
    return .update c table asName sets src filter ret
  else if ← acceptWord "delete" then
    expectWord "from"
    let table ← qualifiedName
    let asName ← optionalAlias
    if ← acceptWord "indexed" then
      expectWord "by"
      let _ ← nameToken
    else if (← atWord "not") && ((← peekSecond).map (·.isWord "indexed")).getD false then
      let _ ← nextToken
      let _ ← nextToken
    let filter ← if ← acceptWord "where" then some <$> expr fuel else pure none
    let ret ← returningClause fuel
    return .delete table asName filter ret
  else return .query (← query fuel)

/-- Reads the body statements of a trigger, each ended by a semicolon, up to `END`. -/
def triggerBody : Nat → Parse (List Statement)
  | 0 => throw "too deep"
  | fuel + 1 => do
    if ← acceptWord "end" then return []
    let s ← changeStatement fuel
    expectSymbol ";"
    return s :: (← triggerBody fuel)

/-- Reads a virtual table's arguments after the opening bracket, up to the closing one: each
argument is the text of its tokens as written, brackets inside it kept whole; an argument with no
tokens is left out. -/
def moduleArguments : Nat → Nat → Option (Nat × Nat) → List String → Parse (List String)
  | 0, _, _, _ => throw "incomplete input"
  | fuel + 1, depth, span, done => do
    let m ← tokenMark
    let t ← nextToken
    let finished ← match span with
      | some (a, b) => do pure (done ++ [← textOfTokens a b])
      | none => pure done
    if depth == 0 && t.isSymbol ")" then pure finished
    else if depth == 0 && t.isSymbol "," then moduleArguments fuel 0 none finished
    else
      let depth := if t.isSymbol "(" then depth + 1 else if t.isSymbol ")" then depth - 1 else depth
      moduleArguments fuel depth (some ((span.map (·.1)).getD m, m)) done

def createRest (fuel : Nat) : Parse Statement := do
  let temp ← (do pure ((← acceptWord "temp") || (← acceptWord "temporary")))
  let _ := temp
  let ifNotExists (u : Unit) : Parse Bool := do
    let _ := u
    if ← acceptWord "if" then
      expectWord "not"
      expectWord "exists"
      return true
    else return false
  if ← acceptWord "virtual" then
    if temp then throw "syntax error"
    expectWord "table"
    let ine ← ifNotExists ()
    let name ← qualifiedName
    let nameMark := (← tokenMark) - 1
    expectWord "using"
    let module ← nameToken
    let args ← if ← acceptSymbol "(" then moduleArguments ((← get).tokens.length + 1) 0 none []
      else pure []
    return .createVirtual ine name module args (← textFrom nameMark)
  if ← acceptWord "table" then
    let ine ← ifNotExists ()
    let name ← qualifiedName
    let nameMark := (← tokenMark) - 1
    if ← acceptWord "as" then return .createTableAs ine name (← query fuel)
    expectSymbol "("
    let (cols, cons, split) ← tableBody fuel false
    let (w, s) ← tableOptions 4 false false
    let text ← textFrom nameMark
    let columnsEnd := (← textOfTokens nameMark split).length - 1
    return .createTable ine name cols cons w s text columnsEnd
  let unique ← acceptWord "unique"
  if ← acceptWord "index" then
    let ine ← ifNotExists ()
    let name ← qualifiedName
    let nameMark := (← tokenMark) - 1
    expectWord "on"
    let table ← nameToken
    expectSymbol "("
    let cols ← indexedColumns fuel
    expectSymbol ")"
    let filter ← if ← acceptWord "where" then some <$> expr fuel else pure none
    return .createIndex unique ine name table cols filter (← textFrom nameMark)
  if unique then throw "expected INDEX"
  if ← acceptWord "view" then
    let ine ← ifNotExists ()
    let name ← qualifiedName
    let nameMark := (← tokenMark) - 1
    let cols ← if ← acceptSymbol "(" then do
        let cs ← nameList fuel
        expectSymbol ")"
        pure cs
      else pure []
    expectWord "as"
    let q ← query fuel
    return .createView ine name cols q (← textFrom nameMark)
  if ← acceptWord "trigger" then
    let ine ← ifNotExists ()
    let name ← qualifiedName
    let nameMark := (← tokenMark) - 1
    let timing ← if ← acceptWord "before" then pure TriggerTiming.before
      else if ← acceptWord "after" then pure TriggerTiming.after
      else if ← acceptWord "instead" then do
        expectWord "of"
        pure TriggerTiming.insteadOf
      else pure TriggerTiming.before
    let event ← if ← acceptWord "delete" then pure TriggerEvent.delete
      else if ← acceptWord "insert" then pure TriggerEvent.insert
      else do
        expectWord "update"
        if ← acceptWord "of" then pure (TriggerEvent.update (← nameList fuel))
        else pure (TriggerEvent.update [])
    expectWord "on"
    let table ← qualifiedName
    if ← acceptWord "for" then
      expectWord "each"
      expectWord "row"
    let condition ← if ← acceptWord "when" then some <$> expr fuel else pure none
    expectWord "begin"
    let body ← triggerBody fuel
    return .createTrigger ine name timing event table condition body (← textFrom nameMark)
  throw "unsupported CREATE"

def dropRest : Parse Statement := do
  let kind ← if ← acceptWord "table" then pure ObjectKind.table
    else if ← acceptWord "index" then pure ObjectKind.index
    else if ← acceptWord "view" then pure ObjectKind.view
    else do
      expectWord "trigger"
      pure ObjectKind.trigger
  let ifExists ← if ← acceptWord "if" then do
      expectWord "exists"
      pure true
    else pure false
  return .drop kind ifExists (← qualifiedName)

def alterRest (fuel : Nat) : Parse Statement := do
  let table ← qualifiedName
  if ← acceptWord "rename" then
    if ← acceptWord "to" then return .renameTable table (← nameToken)
    let _ ← acceptWord "column"
    let old ← nameToken
    expectWord "to"
    return .renameColumn table old (← nameToken)
  if ← acceptWord "add" then
    let _ ← acceptWord "column"
    let m ← tokenMark
    let c ← columnDef fuel
    return .addColumn table c (← textFrom m)
  expectWord "drop"
  let _ ← acceptWord "column"
  return .dropColumn table (← nameToken)

def pragmaValue : Parse Datum := do
  let neg ← acceptSymbol "-"
  let _ ← acceptSymbol "+"
  match ← nextToken with
  | .number t r =>
    let (i, code) := scanInteger t.toList
    if !r && code == 0 then return .integer (if neg then -i else i)
    else return .text ((if neg then "-" else "") ++ t)
  | .string s => return .text s
  | .word w => return .text w
  | .quoted q => return .text q
  | _ => throw "bad pragma value"

def statement (fuel : Nat) : Parse Statement := do
  if ← acceptWord "explain" then
    if ← acceptWord "query" then expectWord "plan"
    let _ ← statementCore fuel
    return .maintenance
  statementCore fuel
where
  statementCore (fuel : Nat) : Parse Statement := do
    if ← acceptWord "begin" then
      let _ ← (do pure ((← acceptWord "deferred") || (← acceptWord "immediate") || (← acceptWord "exclusive")))
      if ← acceptWord "transaction" then
        if (← peekToken).isSome && !(← atSymbol ";") then let _ ← nameToken
      return .begin
    if (← acceptWord "commit") || (← acceptWord "end") then
      if ← acceptWord "transaction" then
        if (← peekToken).isSome && !(← atSymbol ";") then let _ ← nameToken
      return .commit
    if ← acceptWord "rollback" then
      if ← acceptWord "transaction" then
        if (← peekToken).isSome && !(← atSymbol ";") && !(← atWord "to") then let _ ← nameToken
      if ← acceptWord "to" then
        let _ ← acceptWord "savepoint"
        return .rollback (some (← nameToken))
      return .rollback none
    if ← acceptWord "savepoint" then return .savepoint (← nameToken)
    if ← acceptWord "release" then
      let _ ← acceptWord "savepoint"
      return .release (← nameToken)
    if ← acceptWord "create" then return ← createRest fuel
    if ← acceptWord "drop" then return ← dropRest
    if ← acceptWord "alter" then
      expectWord "table"
      return ← alterRest fuel
    if ← acceptWord "pragma" then
      let name ← qualifiedName
      if ← acceptSymbol "=" then return .pragma name (some (← pragmaValue))
      if ← acceptSymbol "(" then
        let v ← pragmaValue
        expectSymbol ")"
        return .pragma name (some v)
      return .pragma name none
    if (← acceptWord "analyze") || (← acceptWord "reindex") then
      if (← peekToken).isSome && !(← atSymbol ";") then let _ ← qualifiedName
      return .maintenance
    if ← acceptWord "vacuum" then
      if (← peekToken).isSome && !(← atSymbol ";") && !(← atWord "into") then let _ ← nameToken
      if ← acceptWord "into" then throw "VACUUM INTO is not supported"
      return .maintenance
    if ← atWord "with" then
      let _ ← nextToken
      let r ← acceptWord "recursive"
      let ctes ← cteList fuel
      if (← atWord "select") || (← atWord "values") then
        let q ← query fuel
        match q with
        | .mk _ _ first rest orderBy limit offset =>
          return .query (.mk r ctes first rest orderBy limit offset)
      return .withTables r ctes (← changeStatement fuel)
    changeStatement fuel

def statements : Nat → Parse (List Statement)
  | 0 => throw "too deep"
  | fuel + 1 => do
    if ← acceptSymbol ";" then statements fuel
    else if (← peekToken).isNone then return []
    else
      let s ← statement (parseFuel (← get).tokens)
      if (← peekToken).isSome then expectSymbol ";"
      return s :: (← statements fuel)

/-- The statements of a script; an error when it does not read. -/
def parseScript (text : String) : Except String (List Statement) :=
  match spannedTokensOf text with
  | none => .error "unrecognized token"
  | some spanned =>
    let tokens := spanned.map (·.token)
    let places := (spanned.map fun t => (t.start, t.stop)).toArray
    match (statements (tokens.length + 1)).run
        { tokens, named := [], lastParam := 0, places, source := text } with
    | .ok (ss, _) => .ok ss
    | .error e => .error e

/-- One query with its parameters counted; an error when it does not read. -/
def parseQueryText (text : String) : Except String Query :=
  match tokensOf text with
  | none => .error "unrecognized token"
  | some tokens =>
    match (do
        let q ← query (parseFuel tokens)
        let _ ← acceptSymbol ";"
        if (← peekToken).isSome then throw "trailing text"
        return q).run { tokens, named := [], lastParam := 0 } with
    | .ok (q, _) => .ok q
    | .error e => .error e

end RosterSync.Database
