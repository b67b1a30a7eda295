import RosterSync.Database.TextSearch.Tokenizer

/-!
Tables that a module keeps: full-text indexes and R*Tree indexes.

A virtual table is made by `CREATE VIRTUAL TABLE name USING module(arguments)`. Three modules
exist:

* `fts3` and `fts4` (the older full-text index): each argument is a column, named by its first
  word, or `tokenize=name args…` (`simple`, the default, `porter` or `unicode61`); the fourth
  version also takes `key=value` options (`matchinfo`, `prefix`, `compress`, `uncompress`,
  `order`, `content`, `languageid`, `notindexed`). With no column the table has one named
  `content`. Its hidden columns are the table's own name, `docid` and `__langid`.
* `fts5` (the newer full-text index): each argument is a column, optionally `UNINDEXED`, or an
  option `key = value` (`prefix`, `tokenize`, `content`, `contentless_delete`, `content_rowid`,
  `columnsize`, `detail`, `tokendata`; a key may be shortened). `rank` and `rowid` may not name a
  column. Its hidden columns are the table's own name and `rank`.
* `rtree` and `rtree_i32`: an integer id, then two to ten coordinates (a lower and an upper bound
  per dimension), then auxiliary columns written with a leading `+`.

A module that is none of these is unknown. Column names may not repeat.
-/

namespace RosterSync.Database

open TextSearch

/-- Where a full-text index reads its columns' values from. -/
inductive ContentSource where
  /-- The index keeps the values itself. -/
  | own
  /-- The index keeps no values: reading a column gives `NULL`. -/
  | none
  /-- Another table holds the values, under the row id column named. -/
  | table (name rowid : String)
deriving Repr, BEq, Inhabited

structure TextIndex where
  /-- 3 or 4 for the older index, 5 for the newer. -/
  version : Nat
  /-- For each column, whether its words are indexed. -/
  indexed : List Bool
  tokenizer : Tokenizer
  content : ContentSource := .own
  /-- Whether rows come in descending row id order (the older index's `order=desc`). -/
  descending : Bool := false
  /-- The name of the hidden column for languages (older index only). -/
  languageColumn : String := "__langid"
  /-- Whether the word count of each row's columns is kept. -/
  sizes : Bool := true
  /-- What the newer index records of where words stand: 0 their places, 1 only their columns,
  2 only their rows. -/
  detail : Nat := 0
deriving Repr, BEq, Inhabited

structure SpatialIndex where
  /-- The number of dimensions, each with a lower and an upper bound. -/
  dimensions : Nat
  /-- Whether the bounds are 32-bit integers rather than 32-bit floats. -/
  integers : Bool
  /-- The number of auxiliary columns after the bounds. -/
  auxiliary : Nat
deriving Repr, BEq, Inhabited

inductive VirtualModule where
  | text (index : TextIndex)
  | spatial (index : SpatialIndex)
deriving Repr, BEq, Inhabited

/-- A virtual table's module with its visible columns, each with its declared type. -/
structure VirtualSpec where
  module : VirtualModule
  columns : List (String × String)

/-- Whether a character is a blank in a module argument. -/
def isArgumentBlank (c : Char) : Bool :=
  c == ' ' || c == '\t' || c == '\n' || c == '\r' || c.toNat == 11 || c.toNat == 12

/-- Reads a quoted word after its opening quote `q`: its text with doubled quotes made one, and
what follows. -/
def quotedWord (q : Char) : List Char → List Char → Option (List Char × List Char)
  | c :: d :: rest, acc =>
    if c == q then (if d == q then quotedWord q rest (q :: acc) else some (acc.reverse, d :: rest))
    else quotedWord q (d :: rest) (c :: acc)
  | [c], acc => if c == q then some (acc.reverse, []) else none
  | [], _ => none

/-- Reads a word of a module argument: a quoted one (`'…'`, `"…"`, `` `…` `` or `[…]`) or a run
of word characters; its text, whether it was quoted, and what follows. -/
def argumentWord (isWordChar : Char → Bool) (cs : List Char) :
    Option (String × Bool × List Char) :=
  match cs with
  | '[' :: rest =>
    let inner := rest.takeWhile (· != ']')
    let after := rest.dropWhile (· != ']')
    match after with
    | _ :: more => some (String.ofList inner, true, more)
    | [] => none
  | q :: rest =>
    if q == '\'' || q == '"' || q == '`' then
      (quotedWord q rest []).map fun (w, more) => (String.ofList w, true, more)
    else
      let w := cs.takeWhile isWordChar
      if w.isEmpty then none else some (String.ofList w, false, cs.dropWhile isWordChar)
  | [] => none

/-- Whether a character may stand in a bareword of the newer index's arguments. -/
def isBareArgumentChar (c : Char) : Bool :=
  c.toNat ≥ 0x80 || c.isAlphanum || c == '_' || c.toNat == 0x1A

/-- Whether a character may stand in a name of the older index's arguments. -/
def isOlderNameChar (c : Char) : Bool :=
  c.toNat ≥ 0x80 || c.isAlphanum || c == '_' || c == '$'

/-- The first word of an older index argument, unquoted, and what follows it; non-word
characters before it are skipped. -/
def olderFirstWord : List Char → Option (String × List Char)
  | [] => none
  | c :: rest =>
    if c == '\'' || c == '"' || c == '`' || c == '[' || isOlderNameChar c then
      (argumentWord isOlderNameChar (c :: rest)).map fun (w, _, more) => (w, more)
    else olderFirstWord rest

/-- The words of an older index tokenizer specification, unquoted. -/
def olderWords (fuel : Nat) (cs : List Char) : List String :=
  match fuel with
  | 0 => []
  | fuel + 1 =>
    match olderFirstWord cs with
    | some (w, rest) => w :: olderWords fuel rest
    | none => []

/-- The unicode61 tokenizer of the older index from its arguments (`remove_diacritics=N`,
`tokenchars=…`, `separators=…`). -/
def olderUnicodeTokenizer (args : List String) : Except String Tokenizer :=
  args.foldlM (fun (t : Tokenizer) a =>
    match t with
    | .unicode61 level extra seps =>
      if a == "remove_diacritics=0" then .ok (.unicode61 0 extra seps)
      else if a == "remove_diacritics=1" then .ok (.unicode61 1 extra seps)
      else if a == "remove_diacritics=2" then .ok (.unicode61 2 extra seps)
      else if a.startsWith "tokenchars=" then .ok (.unicode61 level (extra ++ (a.drop 11).toString.toList) seps)
      else if a.startsWith "separators=" then .ok (.unicode61 level extra (seps ++ (a.drop 11).toString.toList))
      else .error "unknown tokenizer"
    | other => .ok other) (.unicode61 1 [] [])

/-- The older index's tokenizer from the text after `tokenize`. -/
def olderTokenizer (spec : String) : Except String Tokenizer :=
  match olderWords (spec.length + 1) spec.toList with
  | [] => .error "unknown tokenizer: "
  | name :: args =>
    if name == "simple" then .ok (.simple false)
    else if name == "porter" then .ok (.porter (.simple true) true)
    else if name == "unicode61" then olderUnicodeTokenizer args
    else .error ("unknown tokenizer: " ++ name)

/-- The position of the first `=` of a text, if any. -/
def equalsAt (s : String) : Option Nat := s.toList.findIdx? (· == '=')

/-- Removes the quotes around a value of the older index's options. -/
def olderUnquote (s : String) : String :=
  match s.toList with
  | q :: rest =>
    if q == '\'' || q == '"' || q == '`' then
      match quotedWord q rest [] with
      | some (w, _) => String.ofList w
      | none => s
    else if q == '[' then String.ofList (rest.takeWhile (· != ']'))
    else s
  | [] => s

/-- Reads the older index's arguments into its columns and options. -/
def olderIndex (fourth : Bool) (args : List String) : Except String VirtualSpec := do
  let mut cols : List String := []
  let mut tok : Option Tokenizer := none
  let mut notIndexed : List String := []
  let mut content : ContentSource := .own
  let mut descending := false
  let mut language := "__langid"
  let mut compress := false
  let mut uncompress := false
  let mut sizes := fourth
  for a in args do
    let lower := a.toLower
    if tok.isNone && a.length > 8 && lower.startsWith "tokenize" &&
        !(a.toList[8]?.map isOlderNameChar).getD false then
      tok := some (← olderTokenizer (a.drop 9).toString)
    else if fourth && (equalsAt a).isSome then
      let k := (equalsAt a).getD 0
      let key := (a.take k).toString.toLower
      let value := olderUnquote (a.drop (k + 1)).toString
      if key == "matchinfo" then
        if value.toLower != "fts3" then throw ("unrecognized matchinfo: " ++ value)
        sizes := false
      else if key == "prefix" then
        if !(value.toList.all fun c => c.isDigit || c == ',') then
          throw ("error parsing prefix parameter: " ++ value)
      else if key == "compress" then compress := true
      else if key == "uncompress" then uncompress := true
      else if key == "order" then
        if value.toLower == "asc" then descending := false
        else if value.toLower == "desc" then descending := true
        else throw ("unrecognized order: " ++ value)
      else if key == "content" then
        content := if value.isEmpty then .none else .table value "rowid"
      else if key == "languageid" then language := value
      else if key == "notindexed" then notIndexed := notIndexed ++ [value]
      else throw ("unrecognized parameter: " ++ a)
    else
      cols := cols ++ [(olderFirstWord a.toList).map (·.1) |>.getD ""]
  if compress && !uncompress then throw "missing uncompress parameter in fts4 constructor"
  if uncompress && !compress then throw "missing compress parameter in fts4 constructor"
  let named := if cols.isEmpty then ["content"] else cols
  for n in notIndexed do
    if !named.any (·.toLower == n.toLower) then throw ("no such column: " ++ n)
  let indexed := named.map fun c => !notIndexed.any (·.toLower == c.toLower)
  pure { module := .text { version := if fourth then 4 else 3, indexed := indexed,
                           tokenizer := tok.getD (.simple false), content := content,
                           descending := descending, languageColumn := language, sizes := sizes },
         columns := named.map fun c => (c, "") }

/-- Reads one argument of the newer index: a word, and either an option's value (after `=`) or a
second word. -/
def newerArgument (a : String) : Except String (String × Bool × Option String) := do
  let err : String := "parse error in \"" ++ a ++ "\""
  let some (w1, quoted, rest) := argumentWord isBareArgumentChar a.toList | throw err
  let rest := rest.dropWhile isArgumentBlank
  let (isOption, rest) := match rest with
    | '=' :: more => (true, more.dropWhile isArgumentBlank)
    | _ => (false, rest)
  if isOption && quoted then throw err
  if rest.isEmpty then return (w1, isOption, none)
  let some (w2, _, after) := argumentWord isBareArgumentChar rest | throw err
  if !after.isEmpty then throw err
  return (w1, isOption, some w2)

/-- The words of a newer index tokenizer specification: barewords and `'…'` strings. -/
def newerTokenizerWords (fuel : Nat) (cs : List Char) : Except String (List String) :=
  match fuel with
  | 0 => .ok []
  | fuel + 1 =>
    match cs.dropWhile isArgumentBlank with
    | [] => .ok []
    | cs =>
      let word := if cs.head? == some '\'' then argumentWord isBareArgumentChar cs
        else (argumentWord isBareArgumentChar cs).bind fun r => if r.2.1 then none else some r
      match word with
      | some (w, _, rest) => do pure (w :: (← newerTokenizerWords fuel rest))
      | none => .error "parse error in tokenize directive"

/-- The key-value pairs of tokenizer arguments; an odd count fails. -/
def argumentPairs : List String → Option (List (String × String))
  | k :: v :: rest => (argumentPairs rest).map ((k, v) :: ·)
  | [] => some []
  | [_] => none

/-- The newer index's tokenizer from its name and arguments. -/
def newerTokenizer (fuel : Nat) (words : List String) : Except String Tokenizer :=
  match fuel with
  | 0 => .error "error in tokenizer constructor"
  | fuel + 1 =>
    let ctor : String := "error in tokenizer constructor"
    match words with
    | [] => .ok (.unicode61 1 [] [])
    | name :: args =>
      let n := name.toLower
      if n == "unicode61" then
        match argumentPairs args with
        | none => .error ctor
        | some pairs =>
          pairs.foldlM (fun (t : Tokenizer) (k, v) =>
            match t with
            | .unicode61 level extra seps =>
              let k := k.toLower
              if k == "remove_diacritics" then
                if v == "0" then .ok (.unicode61 0 extra seps)
                else if v == "1" then .ok (.unicode61 1 extra seps)
                else if v == "2" then .ok (.unicode61 2 extra seps)
                else .error ctor
              else if k == "tokenchars" then .ok (.unicode61 level (extra ++ v.toList) seps)
              else if k == "separators" then .ok (.unicode61 level extra (seps ++ v.toList))
              else if k == "categories" then .ok t
              else .error ctor
            | other => .ok other) (.unicode61 1 [] [])
      else if n == "ascii" then
        match argumentPairs args with
        | none => .error ctor
        | some pairs =>
          pairs.foldlM (fun (t : Tokenizer) (k, v) =>
            match t with
            | .ascii extra seps =>
              let k := k.toLower
              if k == "tokenchars" then .ok (.ascii (extra ++ v.toList) seps)
              else if k == "separators" then .ok (.ascii extra (seps ++ v.toList))
              else .error ctor
            | other => .ok other) (.ascii [] [])
      else if n == "porter" then
        match args with
        | [] => .ok (.porter (.unicode61 1 [] []) false)
        | _ => do pure (.porter (← newerTokenizer fuel args) false)
      else if n == "trigram" then
        match argumentPairs args with
        | none => .error ctor
        | some pairs => do
          let (cs, rd) ← pairs.foldlM (fun (acc : Bool × Bool) (k, v) =>
            let k := k.toLower
            if v != "0" && v != "1" then .error ctor
            else if k == "case_sensitive" then .ok (v == "1", acc.2)
            else if k == "remove_diacritics" then .ok (acc.1, v == "1")
            else .error ctor) (false, false)
          if cs && rd then .error ctor else .ok (.trigram cs rd)
      else .error ("no such tokenizer: " ++ name)

/-- Whether a text names one of the choices of an option, shortened or not, and only one. -/
def choiceOf (choices : List String) (v : String) : Option String :=
  match choices.filter fun c => (v.toLower.toList).isPrefixOf c.toList with
  | [c] => some c
  | _ => none

/-- Reads the newer index's arguments into its columns and options. -/
def newerIndex (tableName : String) (args : List String) : Except String VirtualSpec := do
  if tableName.toLower == "rank" then throw ("reserved fts5 table name: " ++ tableName)
  let mut cols : List (String × Bool) := []
  let mut tok : Option Tokenizer := none
  let mut content : Option ContentSource := none
  let mut rowidColumn : Option String := none
  let mut sizes := true
  let mut detail := 0
  for a in args do
    let (w1, isOption, w2) ← newerArgument a
    if isOption then
      let cmd := w1.toLower.toList
      let v := w2.getD ""
      let names := ["prefix", "tokenize", "content", "contentless_delete", "content_rowid",
        "columnsize", "detail", "tokendata"]
      match names.find? fun n => cmd.isPrefixOf n.toList with
      | some "prefix" =>
        let parts := (String.ofList (v.toList.map fun c => if c == ',' then ' ' else c)).splitOn " "
        let parts := parts.filter (!·.isEmpty)
        if parts.isEmpty && !v.isEmpty then throw "malformed prefix=... directive"
        for p in parts do
          if !p.toList.all Char.isDigit then throw "malformed prefix=... directive"
          let n := p.toList.foldl (fun n c => n * 10 + (c.toNat - 48)) 0
          if n == 0 || n ≥ 1000 then throw "prefix length out of range (max 999)"
      | some "tokenize" =>
        if tok.isSome then throw "multiple tokenize=... directives"
        let words ← newerTokenizerWords (v.length + 1) v.toList
        tok := some (← newerTokenizer (words.length + 1) words)
      | some "content" =>
        if content.isSome then throw "multiple content=... directives"
        content := some (if v.isEmpty then .none else .table v "rowid")
      | some "content_rowid" =>
        if rowidColumn.isSome then throw "multiple content_rowid=... directives"
        rowidColumn := some v
      | some "contentless_delete" =>
        if v != "0" && v != "1" then throw "malformed contentless_delete=... directive"
      | some "columnsize" =>
        if v != "0" && v != "1" then throw "malformed columnsize=... directive"
        sizes := v == "1"
      | some "detail" =>
        match choiceOf ["full", "none", "column"] v with
        | some "column" => detail := 1
        | some "none" => detail := 2
        | some _ => detail := 0
        | none => throw "malformed detail=... directive"
      | some "tokendata" =>
        if v != "0" && v != "1" then throw "malformed tokendata=... directive"
      | _ => throw ("unrecognized option: \"" ++ w1 ++ "\"")
    else
      if w1.toLower == "rank" || w1.toLower == "rowid" then
        throw ("reserved fts5 column name: " ++ w1)
      match w2 with
      | some o => if o.toLower != "unindexed" then throw ("unrecognized column option: " ++ o)
      | none => pure ()
      cols := cols ++ [(w1, w2.isNone)]
  if cols.isEmpty then throw ("vtable constructor failed: " ++ tableName)
  let source := match content.getD .own with
    | .table n _ => ContentSource.table n (rowidColumn.getD "rowid")
    | c => c
  pure { module := .text { version := 5, indexed := cols.map (·.2),
                           tokenizer := tok.getD (.unicode61 1 [] []), content := source,
                           sizes := sizes, detail := detail },
         columns := cols.map fun (c, _) => (c, "") }

/-- The name an R*Tree argument gives its column: its first word, unquoted. -/
def spatialColumnName (a : String) : String :=
  match argumentWord isOlderNameChar a.toList with
  | some (w, _, _) => w
  | none => a

/-- Reads an R*Tree's arguments: the id, the bounds and the auxiliary columns. -/
def spatialIndex (integers : Bool) (args : List String) : Except String VirtualSpec := do
  if args.length < 3 then throw "Too few columns for an rtree table"
  if args.length > 103 then throw "Too many columns for an rtree table"
  let rest := args.drop 1
  let bounds := rest.takeWhile fun a => !a.startsWith "+"
  let aux := rest.drop bounds.length
  if aux.any fun a => !a.startsWith "+" then throw "Auxiliary rtree columns must be last"
  if bounds.length < 2 then throw "Too few columns for an rtree table"
  if bounds.length > 10 then throw "Too many columns for an rtree table"
  if bounds.length % 2 == 1 then throw "Wrong number of columns for an rtree table"
  let boundType := if integers then "INT" else "REAL"
  pure { module := .spatial { dimensions := bounds.length / 2, integers := integers,
                              auxiliary := aux.length },
         columns := [(spatialColumnName (args.headD ""), "INT")] ++
           bounds.map (fun a => (spatialColumnName a, boundType)) ++
           aux.map fun a => (spatialColumnName (a.drop 1).toString, "") }

def VirtualModule.hiddenNames (m : VirtualModule) (tableName : String) : List String :=
  match m with
  | .text ix => if ix.version == 5 then [tableName, "rank"] else [tableName, "docid", ix.languageColumn]
  | .spatial _ => []

def VirtualSpec.ofArguments (module tableName : String) (args : List String) :
    Except String VirtualSpec := do
  let m := module.toLower
  let spec ← if m == "fts5" then newerIndex tableName args
    else if m == "fts4" then olderIndex true args
    else if m == "fts3" then olderIndex false args
    else if m == "rtree" then spatialIndex false args
    else if m == "rtree_i32" then spatialIndex true args
    else throw ("no such module: " ++ module)
  let names := spec.columns.map (·.1) ++ spec.module.hiddenNames tableName
  for (n, i) in names.zipIdx do
    if (names.drop (i + 1)).any (·.toLower == n.toLower) then
      throw ("duplicate column name: " ++ n)
  pure spec

/-- A name in single quotes, a quote in it doubled. -/
def singleQuoted (s : String) : String := "'" ++ s.replace "'" "''" ++ "'"

/-- A name in double quotes, a double quote in it doubled. -/
def doubleQuoted (s : String) : String := "\"" ++ s.replace "\"" "\"\"" ++ "\""

/-- The size of an R*Tree's first node: room for 51 entries of an id and two 4-byte bounds per
dimension after a 4-byte header, at most 4032 bytes. -/
def SpatialIndex.nodeSize (ix : SpatialIndex) : Nat :=
  min 4032 (4 + (8 + 8 * ix.dimensions) * 51)

/-- The statements that create the tables a virtual table keeps its data in, and their first
rows, as one script. -/
def VirtualSpec.shadowScript (spec : VirtualSpec) (name : String) : String :=
  let n := spec.columns.length
  match spec.module with
  | .text ix =>
    if ix.version == 5 then
      let q (suffix : String) : String := singleQuoted (name ++ "_" ++ suffix)
      let cols := String.join ((List.range n).map fun i => ", c" ++ toString i)
      "CREATE TABLE " ++ q "data" ++ "(id INTEGER PRIMARY KEY, block BLOB);" ++
      "CREATE TABLE " ++ q "idx" ++ "(segid, term, pgno, PRIMARY KEY(segid, term)) WITHOUT ROWID;" ++
      (if ix.content == .own then
        "CREATE TABLE " ++ q "content" ++ "(id INTEGER PRIMARY KEY" ++ cols ++ ");" else "") ++
      (if ix.sizes then "CREATE TABLE " ++ q "docsize" ++ "(id INTEGER PRIMARY KEY, sz BLOB);" else "") ++
      "CREATE TABLE " ++ q "config" ++ "(k PRIMARY KEY, v) WITHOUT ROWID;" ++
      "INSERT INTO " ++ q "data" ++ " VALUES(1,X''),(10,X'00000000000000');" ++
      "INSERT INTO " ++ q "config" ++ " VALUES('version',4)"
    else
      let q (suffix : String) : String := singleQuoted (name ++ "_" ++ suffix)
      let cols := String.join (spec.columns.zipIdx.map fun ((c, _), i) =>
        ", " ++ singleQuoted ("c" ++ toString i ++ c))
      let language := if ix.languageColumn != "__langid" then ", langid" else ""
      (if ix.content == .own then
        "CREATE TABLE " ++ q "content" ++ "(docid INTEGER PRIMARY KEY" ++ cols ++ language ++ ");"
      else "") ++
      "CREATE TABLE " ++ q "segments" ++ "(blockid INTEGER PRIMARY KEY, block BLOB);" ++
      "CREATE TABLE " ++ q "segdir" ++ "(level INTEGER,idx INTEGER,start_block INTEGER," ++
        "leaves_end_block INTEGER,end_block INTEGER,root BLOB,PRIMARY KEY(level, idx));" ++
      (if ix.sizes then "CREATE TABLE " ++ q "docsize" ++ "(docid INTEGER PRIMARY KEY, size BLOB);" else "") ++
      (if ix.version == 4 then
        "CREATE TABLE IF NOT EXISTS " ++ q "stat" ++ "(id INTEGER PRIMARY KEY, value BLOB);" else "")
  | .spatial ix =>
    let q (suffix : String) : String := doubleQuoted (name ++ "_" ++ suffix)
    let aux := String.join ((List.range ix.auxiliary).map fun i => ",a" ++ toString i)
    "CREATE TABLE " ++ q "rowid" ++ "(rowid INTEGER PRIMARY KEY,nodeno" ++ aux ++ ");" ++
    "CREATE TABLE " ++ q "node" ++ "(nodeno INTEGER PRIMARY KEY,data);" ++
    "CREATE TABLE " ++ q "parent" ++ "(nodeno INTEGER PRIMARY KEY,parentnode);" ++
    "INSERT INTO " ++ q "node" ++ "VALUES(1,zeroblob(" ++ toString ix.nodeSize ++ "))"

/-- The suffixes of the tables a virtual table keeps its data in. -/
def VirtualModule.shadowSuffixes : VirtualModule → List String
  | .text ix =>
    if ix.version == 5 then ["data", "idx", "content", "docsize", "config"]
    else ["content", "segments", "segdir", "docsize", "stat"]
  | .spatial _ => ["rowid", "node", "parent"]

end RosterSync.Database
