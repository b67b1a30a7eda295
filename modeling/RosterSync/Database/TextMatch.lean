import RosterSync.Database.VirtualRows
import RosterSync.Database.TextSearch.Report

/-!
Where a full-text `MATCH` can be answered.

`MATCH` is no function: only the full-text index whose column it names can answer it, and only
when the search can be handed to the index before the rows are read. That is so for a `MATCH`
standing alone in the filter or as one of its `AND` terms, whose query does not read the index's
own row; and for one inside an `OR` all of whose branches the index can answer (each holding
such a `MATCH`, or fixing the row id). The newer index also reads `t = 'query'` on the column
named like the table as a search, and the older one answers a single search a scan: a second
`MATCH` of the same index is left as it is.

Any other `MATCH` (negated, in the results, under a `CASE`, compared) stays a call that fails
when evaluated.
-/

namespace RosterSync.Database

/-- The full-text frame a column reference names, with the column searched: `some i` for a column
of the index, `none` for the column named like the table, which searches every column. -/
def textColumn? (frames : List Frame) : Expr → Option (Frame × Option Nat)
  | .column tbl name _ =>
    let named := frames.filter fun f =>
      match tbl with
      | some t => sameName f.name t
      | none => true
    named.findSome? fun f =>
      match f.index with
      | some ix =>
        match f.columns.findIdx? (fun c => sameName c.name name) with
        | some i =>
          if i < ix.indexed.length then some (f, some i)
          else if i == ix.indexed.length then some (f, none)
          else none
        | none => none
      | none => none
  | _ => none

/-- Whether an expression reads a column of a frame (subqueries are not looked into). -/
def readsFrame (f : Frame) : Nat → Expr → Bool
  | 0, _ => true
  | fuel + 1, e =>
    match e with
    | .column tbl name _ =>
      match tbl with
      | some t => sameName f.name t
      | none => f.columns.any (sameName ·.name name) || isRowidName name
    | _ => e.children.any (readsFrame f fuel)

/-- The search an index answers for a term, if it answers one: the term rewritten as a
`textSearch`, and the frame it searches. -/
def searchTerm? (frames : List Frame) (e : Expr) : Option (Expr × String) :=
  let searched (a q : Expr) (whole : Bool) : Option (Expr × String) :=
    match textColumn? frames a with
    | some (f, col) =>
      if readsFrame f 10000 q || (whole && (col.isSome || f.index.map (·.version) != some 5)) then none
      else some (.matching .textSearch false a q none, f.name)
    | none => none
  match e with
  | .matching .matchOp false a q none => searched a q false
  | .binary .eq a q =>
    match searched a q true with
    | some r => some r
    | none => searched q a true
  | _ => none

/-- Whether a term fixes the row id of a full-text frame to a value the row does not decide. -/
def fixesRowid (frames : List Frame) (e : Expr) : Bool :=
  let fixes (a b : Expr) : Bool :=
    match a with
    | .column tbl name _ =>
      (isRowidName name || sameName name "docid") &&
        frames.any fun f => f.index.isSome &&
          (match tbl with
           | some t => sameName f.name t
           | none => true) && !readsFrame f 10000 b
    | _ => false
  match e with
  | .binary .eq a b => fixes a b || fixes b a
  | _ => false

def andTerms : Nat → Expr → List Expr
  | 0, e => [e]
  | fuel + 1, e =>
    match e with
    | .binary .and a b => andTerms fuel a ++ andTerms fuel b
    | _ => [e]

def orBranches : Nat → Expr → List Expr
  | 0, e => [e]
  | fuel + 1, e =>
    match e with
    | .binary .or a b => orBranches fuel a ++ orBranches fuel b
    | _ => [e]

/-- Marks the searches among the `AND` terms of a filter, given the older indexes that already
answer one; the marked filter and the indexes answering a search after it. -/
def markTerms (frames : List Frame) (newer : String → Bool) : Nat → List String → Expr →
    Expr × List String
  | 0, used, e => (e, used)
  | fuel + 1, used, e =>
    match e with
    | .binary .and a b =>
      let (a', used) := markTerms frames newer fuel used a
      let (b', used) := markTerms frames newer fuel used b
      (.binary .and a' b', used)
    | .binary .or _ _ =>
      let branches := orBranches 10000 e
      let answered := branches.all fun br =>
        (andTerms 10000 br).any fun t => (searchTerm? frames t).isSome || fixesRowid frames t
      if !answered then (e, used)
      else
        let marked := branches.map fun br => (markTerms frames newer fuel used br).1
        match marked with
        | first :: rest => (rest.foldl (fun acc x => .binary .or acc x) first, used)
        | [] => (e, used)
    | _ =>
      match searchTerm? frames e with
      | some (e', name) =>
        if newer name then (e', used)
        else if used.any (sameName · name) then (e, used)
        else (e', name :: used)
      | none => (e, used)

/-- A filter with the searches its full-text indexes answer marked. -/
def markTextSearches (frames : List Frame) (filter : Expr) : Expr :=
  let newer (name : String) : Bool :=
    frames.any fun f => sameName f.name name && f.index.map (·.version) == some 5
  (markTerms frames newer 10000 [] filter).1

/-- The search a `MATCH` asks of the frame it names: the frame, its index, and the query read
against the index's columns. -/
def parsedSearch (frames : List Frame) (a : Expr) (query : Datum) :
    Except String (Frame × TextIndex × TextSearch.Search) :=
  match textColumn? frames a with
  | some (f, col) =>
    match f.index with
    | some ix =>
      let names := (f.columns.take ix.indexed.length).map (·.name)
      (ix.parseQuery names col query.text?).map fun s => (f, ix, s)
    | none => .error "unable to use function MATCH in the requested context"
  | none => .error "unable to use function MATCH in the requested context"

/-- Whether a row's frame matches a search: the query read against the index's columns, and the
row's words searched. -/
def textSearchHolds (frames : List Frame) (a : Expr) (query : Datum) : Except String Bool :=
  (parsedSearch frames a query).map fun (f, ix, s) =>
    s.holds (ix.document (f.values.take ix.indexed.length))

/-- The searches of a marked filter whose query reads none of the searched frames, each as its
column and its query: the index reads such a query once, before any row, so a query it cannot
read fails even when no row is there. -/
def fixedSearches (frames : List Frame) : Nat → Expr → List (Expr × Expr)
  | 0, _ => []
  | fuel + 1, e =>
    match e with
    | .matching .textSearch _ a q _ =>
      if frames.any fun f => readsFrame f 10000 q then [] else [(a, q)]
    | _ => e.children.flatMap (fixedSearches frames fuel)

/-- The name of the table a full-text frame's row belongs to: the name of its column named like
the table. -/
def Frame.indexTable? (f : Frame) : Option String :=
  f.index.bind fun ix => (f.columns[ix.indexed.length]?).map (·.name)

/-- The rows of a source with each searched full-text frame given what its searches (joined by
`AND`, in the order written) found across its table, and, for the newer index, its rank. -/
def withFindings (store : Store) (searches : List (String × TextSearch.Search))
    (rows : List (List Frame)) : List (List Frame) :=
  let combined (name : String) : Option TextSearch.Search :=
    match (searches.filter fun (n, _) => sameName n name).map (·.2) with
    | [] => none
    | s :: more => some (more.foldl .both s)
  let findings : List (String × TextSearch.Found × TextIndex) :=
    (rows.headD []).filterMap fun f => do
      let s ← combined f.name
      let ix ← f.index
      let t ← f.indexTable? >>= store.table?
      pure (f.name, TextSearch.Found.ofDocuments s ix.indexed.length
        (t.rows.map fun r => ix.document r.values), ix)
  if findings.isEmpty then rows
  else
    rows.map fun frames => frames.map fun f =>
      match findings.find? fun (n, _, _) => sameName n f.name with
      | some (_, fd, ix) =>
        let n := ix.indexed.length
        let f := { f with found := some fd }
        if ix.version == 5 then
          let rank := fd.rank [] (ix.document (f.values.take n))
          { f with values := f.values.set (n + 1) (.real (Binary64.ofFloat rank)) }
        else f
      | none => f

/-- The functions a full-text search offers on its rows. -/
def textSearchFunctions : List String := ["bm25", "highlight", "snippet", "offsets", "matchinfo"]

/-- The value of a function of a full-text search for a row's frame, given the values of its
arguments after the first; `none` when the frame's index does not offer it. -/
def textFunctionValue (f : Frame) (name : String) (vals : List Datum) : Option (Except String Datum) := do
  let ix ← f.index
  let n := ix.indexed.length
  let fd := f.found.getD TextSearch.Found.empty
  let doc := ix.document (f.values.take n)
  let columnText (i : Int) : Option String :=
    if i < 0 then none else (f.values.getD i.toNat .null).text?
  if ix.version == 5 then
    match name with
    | "bm25" => some (.ok (.real (Binary64.ofFloat (fd.rank (vals.map (·.realValue.toFloat)) doc))))
    | "highlight" =>
      match vals with
      | [c, o, e] =>
        let i := c.int32Value
        if i < 0 || i ≥ n then some (.ok (.text ""))
        else
          match columnText i with
          | none => some (.ok .null)
          | some text =>
            some (.ok (.text (fd.highlight doc i.toNat text (o.text?.getD "") (e.text?.getD "")
              (ix.tokenizer.words text))))
      | _ => some (.error "wrong number of arguments to function highlight()")
    | "snippet" =>
      match vals with
      | [c, o, e, dots, size] =>
        let i := c.int32Value
        let columns := (List.range n).map fun (k : Nat) =>
          (columnText (Int.ofNat k)).map fun text => (text, ix.tokenizer.words text)
        if i ≥ n then some (.error "column index out of range")
        else
          match fd.snippet doc columns i (o.text?.getD "") (e.text?.getD "") (dots.text?.getD "")
              size.int32Value with
          | some text => some (.ok (.text text))
          | none => some (.ok .null)
      | _ => some (.error "wrong number of arguments to function snippet()")
    | _ => none
  else
    let columns := (List.range n).map fun (k : Nat) =>
      (columnText (Int.ofNat k)).map fun text => (text, ix.tokenizer.words text)
    let places := fd.search.placesIn doc false
    match name with
    | "offsets" =>
      if f.found.isNone then some (.ok (.text ""))
      else some (.ok (((TextSearch.offsetsText fd.search places columns).map Datum.text).getD .null))
    | "matchinfo" =>
      let format := match vals with
        | v :: _ => v.text?.getD "pcx"
        | [] => "pcx"
      let facts : TextSearch.IndexFacts :=
        { fourth := ix.version == 4, sizes := ix.sizes, columns := n }
      if f.found.isNone then some (.ok (.blob []))
      else
        some ((TextSearch.matchStatistics facts fd.search fd.totals doc places
          (fd.search.reached doc) format).map Datum.blob)
    | "snippet" =>
      if vals.length > 5 then some (.error "wrong number of arguments to function snippet()")
      else
        let textArg (k : Nat) (dflt : String) : Option String :=
          match vals[k]? with
          | some v => v.text?
          | none => some dflt
        match textArg 0 "<b>", textArg 1 "</b>", textArg 2 "<b>...</b>" with
        | some opening, some closing, some ellipsis =>
          let column := ((vals[3]?).map (·.int32Value)).getD (-1)
          let tokens := ((vals[4]?).map (·.int32Value)).getD 15
          if tokens == 0 || f.found.isNone then some (.ok (.text ""))
          else
            some (.ok (((TextSearch.olderSnippet fd.search places columns opening closing
              ellipsis column tokens).map Datum.text).getD .null))
        | _, _, _ => some (.error "out of memory")
    | _ => none

end RosterSync.Database
