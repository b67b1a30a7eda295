import RosterSync.Database.Catalog
import RosterSync.Database.Json.Each

/-!
Table functions: sources in a `FROM` clause whose rows are computed from arguments.

A table function has visible columns and hidden ones; its arguments fill the hidden columns in
order, so it takes at most as many arguments as it has hidden columns, and a hidden column is
reached only by naming it. The JSON walks `json_each` and `json_tree` take the JSON and a root
path and number their rows from 0; the `pragma_` functions take an object's name and a schema,
keep both as text in their hidden columns, and number their rows from 1. A table function named
without arguments takes none.
-/

namespace RosterSync.Database

/-- A table function's columns: the visible ones, then the hidden ones its arguments fill; and
the row id of its first row. -/
structure TableFunction where
  name : String
  columns : List String
  hidden : List String
  firstRowid : Int

/-- A `pragma_` table function with its visible columns and hidden ones. -/
def pragmaFunction (name : String) (columns hidden : List String) : TableFunction :=
  { name := "pragma_" ++ name, columns := columns, hidden := hidden, firstRowid := 1 }

def tableInfoColumns : List String := ["cid", "name", "type", "notnull", "dflt_value", "pk"]

/-- The table function of a name, if there is one. -/
def tableFunction? (name : String) : Option TableFunction :=
  let walk (n : String) : TableFunction :=
    { name := n, columns := walkColumns.take 8, hidden := walkColumns.drop 8, firstRowid := 0 }
  let named := ["arg", "schema"]
  match name.toLower with
  | "json_each" => some (walk "json_each")
  | "json_tree" => some (walk "json_tree")
  | "pragma_table_info" => some (pragmaFunction "table_info" tableInfoColumns named)
  | "pragma_table_xinfo" => some (pragmaFunction "table_xinfo" (tableInfoColumns ++ ["hidden"]) named)
  | "pragma_index_list" =>
    some (pragmaFunction "index_list" ["seq", "name", "unique", "origin", "partial"] named)
  | "pragma_index_info" => some (pragmaFunction "index_info" ["seqno", "cid", "name"] named)
  | "pragma_index_xinfo" =>
    some (pragmaFunction "index_xinfo" ["seqno", "cid", "name", "desc", "coll", "key"] named)
  | "pragma_foreign_key_list" =>
    some (pragmaFunction "foreign_key_list"
      ["id", "seq", "table", "from", "to", "on_update", "on_delete", "match"] named)
  | "pragma_collation_list" => some (pragmaFunction "collation_list" ["seq", "name"] [])
  | "pragma_database_list" => some (pragmaFunction "database_list" ["seq", "name", "file"] [])
  | "pragma_function_list" =>
    some (pragmaFunction "function_list" ["name", "builtin", "type", "enc", "narg", "flags"] [])
  | "pragma_table_list" =>
    some (pragmaFunction "table_list" ["schema", "name", "type", "ncol", "wr", "strict"] ["arg"])
  | _ => none

/-- The columns of a table function's rows, the hidden ones marked. Its columns declare no type,
so their affinity is that of no type. -/
def TableFunction.columnInfos (f : TableFunction) : List ColumnInfo :=
  let col (hidden : Bool) (n : String) : ColumnInfo :=
    { name := n, affinity := some .blob, collation := some .binary, declType := none, hidden := hidden }
  f.columns.map (col false) ++ f.hidden.map (col true)

/-- A frame of a table function's row under a name. -/
def TableFunction.frame (f : TableFunction) (name : String) (values : List Datum) (rowid : Int) : Frame :=
  { name := name, columns := f.columnInfos, values := values, rowid := some rowid, merged := [] }

/-- The frame of a table function's row under a name, its values all `NULL`. -/
def TableFunction.emptyFrame (f : TableFunction) (name : String) : Frame :=
  f.frame name (f.columnInfos.map fun _ => .null) f.firstRowid

/-- The message for a call with more arguments than a table function takes. -/
def TableFunction.tooManyArguments (f : TableFunction) : String :=
  "too many arguments on " ++ f.name ++ "() - max " ++ toString f.hidden.length

/-- What the catalog reads besides the store: the name and type of each of a view's columns,
which only reading the view's query tells. -/
structure CatalogSource where
  store : Store
  viewColumns : View → Except String (List (String × String))

/-- Whether a pragma's schema argument names the main schema: no schema does, `temp` does not,
and any other is unknown. -/
def mainSchema (schema : Option String) : Except String Bool :=
  match schema with
  | none => pure true
  | some s =>
    if sameName s "main" then pure true
    else if sameName s "temp" then pure false
    else throw ("unknown database '" ++ s ++ "'")

/-- The rows of `pragma_table_info` (or `pragma_table_xinfo` when `extended`) for a table, a
view or the schema table of a name; none for any other name. -/
def CatalogSource.infoRows (c : CatalogSource) (name : String) (extended : Bool) :
    Except String (List (List Datum)) :=
  if isSchemaTableName name then pure (plainInfoRows schemaColumns extended)
  else
    match c.store.table? name with
    | some t => pure (tableInfoRows t extended)
    | none =>
      match c.store.view? name with
      | some v => do pure (plainInfoRows (← c.viewColumns v) extended)
      | none => pure []

/-- The visible rows of a `pragma_` table function for its object name and schema. -/
def CatalogSource.pragmaRows (c : CatalogSource) (f : String) (name schema : Option String) :
    Except String (List (List Datum)) := do
  let s := c.store
  match f with
  | "pragma_collation_list" => pure collationListRows
  | "pragma_database_list" => pure databaseListRows
  | "pragma_function_list" => pure functionListRows
  | "pragma_table_list" =>
    let widths (v : View) : Nat := ((c.viewColumns v).toOption.map List.length).getD 0
    pure (tableListRows s widths name)
  | _ =>
    match name with
    | none => pure []
    | some n =>
      if !(← mainSchema schema) then return []
      match f with
      | "pragma_table_info" => c.infoRows n false
      | "pragma_table_xinfo" => c.infoRows n true
      | "pragma_index_list" => pure (((s.table? n).map (indexListRows s)).getD [])
      | "pragma_index_info" => pure (((s.indexEntryColumns n).map (indexInfoRows · false)).getD [])
      | "pragma_index_xinfo" => pure (((s.indexEntryColumns n).map (indexInfoRows · true)).getD [])
      | "pragma_foreign_key_list" => pure (((s.table? n).map foreignKeyRows).getD [])
      | _ => pure []

/-- The rows of a table function with its arguments, the hidden columns last. -/
def CatalogSource.functionRows (c : CatalogSource) (f : TableFunction) (args : List Datum) :
    Except String (List (List Datum)) := do
  if args.length > f.hidden.length then throw f.tooManyArguments
  match f.name with
  | "json_each" => jsonWalk false args
  | "json_tree" => jsonWalk true args
  | _ =>
    let texts := args.map pathText?
    let hidden := f.hidden.mapIdx fun i _ => ((texts[i]?).join.map Datum.text).getD .null
    let rows ← c.pragmaRows f.name (texts[0]?).join (texts[1]?).join
    pure (rows.map (· ++ hidden))

end RosterSync.Database
