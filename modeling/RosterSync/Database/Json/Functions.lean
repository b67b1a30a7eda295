import RosterSync.Database.Json.Scan
import RosterSync.Database.Json.Binary
import RosterSync.Database.Json.Path

/-!
The database's JSON functions.

A JSON argument is read from JSON text, or from a blob in binary form; NULL gives NULL. Values
put into JSON from SQL become `null`, numbers that keep their text (doubles with fifteen
digits), JSON when the text comes from a JSON function, and strings otherwise; a blob must hold
JSON in binary form. Values taken out of JSON become SQL values: numbers, decoded strings, and
JSON text for arrays and objects.

`->` and `->>` also take short paths: an integer `n` for `$[n]`, a word for `$.word`, an index
step as written, and any other text as a quoted key.

The `jsonb` functions give their JSON back in binary form: a value they edit or take out as it
is, and JSON text they build read again first.
-/

namespace RosterSync.Database

/-- Where a text argument of a JSON function comes from. -/
inductive TextOrigin where
  /-- SQL text. -/
  | plain
  /-- Text made by a JSON function, which is JSON. -/
  | json
  /-- A value taken out of JSON by `json_extract`, which is JSON when an array or object. -/
  | extracted
deriving DecidableEq, Repr, Inhabited

def malformedJson : String := "malformed JSON"

/-- The message for a path that cannot be read. -/
def badPathMessage (p : String) : String := "bad JSON path: '" ++ p ++ "'"

/-- Text up to its first zero character, as the functions read names and paths. -/
def untilZero (s : String) : String := String.ofList (s.toList.takeWhile (· ≠ Char.ofNat 0))

/-- The JSON value of text, if it is JSON. -/
def jsonOfText? (s : String) : Option JNode :=
  match readJsonText s with
  | .ok (v, _) => some v
  | .error _ => none

/-- How a function gives back JSON: as text, or in binary form. -/
inductive JsonForm where
  | text
  | binary
deriving DecidableEq

def JsonForm.result (form : JsonForm) (v : JNode) : Datum :=
  match form with
  | .text => .text v.render
  | .binary => .blob v.toBinary

/-- JSON text that a function built, given back in a form: in binary form it is read again. -/
def JsonForm.ofBuiltText (form : JsonForm) (s : String) : Except String Datum :=
  match form with
  | .text => .ok (.text s)
  | .binary =>
    match jsonOfText? s with
    | some v => .ok (.blob v.toBinary)
    | none => .error malformedJson

/-- The JSON value that text from an origin embeds as it is, if any. -/
def TextOrigin.embeds (o : TextOrigin) (s : String) : Option JNode :=
  match o with
  | .plain => none
  | .json => jsonOfText? s
  | .extracted =>
    match jsonOfText? s with
    | some v => if v.isContainer then some v else none
    | none => none

/-- The JSON value of a blob argument: what it holds in binary form, or else its bytes read as
JSON text. -/
def blobArgument (b : List UInt8) (ofText : String → Except String (Option JNode)) :
    Except String (Option JNode) :=
  if looksLikeBinaryJson b then
    match binaryJson? b with
    | some v => .ok (some v)
    | none => .error malformedJson
  else ofText (bytesText b)

/-- The JSON value of JSON text given as an argument; empty text is no JSON. -/
def textArgument (s : String) : Except String (Option JNode) :=
  if s.isEmpty then .error malformedJson
  else
    match jsonOfText? s with
    | some v => .ok (some v)
    | none => .error malformedJson

/-- The JSON value of a function's JSON argument; none for NULL. -/
def jsonArgument (d : Datum) : Except String (Option JNode) :=
  match d with
  | .null => .ok none
  | .blob b => blobArgument b textArgument
  | _ => textArgument ((d.text?).getD "")

/-- The JSON value a blob becomes inside JSON: only JSON in binary form may go in. -/
def blobValue (b : List UInt8) : Except String JNode :=
  if looksLikeBinaryJson b then
    match binaryJson? b with
    | some v => .ok v
    | none => .error malformedJson
  else .error "JSON cannot hold BLOB values"

/-- The JSON value an SQL value becomes inside an array or object: doubles are written with
fifteen digits and infinities as `9.0e+999`, JSON text from a JSON function is embedded, other
text becomes a string. -/
def embeddedValue (origin : TextOrigin) (d : Datum) : Except String JNode :=
  match d with
  | .null => .ok .null
  | .integer i => .ok (.int (i64Text i))
  | .real x => .ok (.real x.jsonText)
  | .text s => .ok ((origin.embeds s).getD (.str .raw s))
  | .blob b => blobValue b

/-- The JSON value an SQL value becomes when an edit puts it in: as inside an array, but
doubles are written as SQL writes them, infinities as `9e999`, and text from a JSON function
must be JSON. -/
def editValue (origin : TextOrigin) (d : Datum) : Except String JNode :=
  match d with
  | .real x =>
    .ok (.real (if x.isInfinite then (if x.negative then "-9e999" else "9e999") else x.text))
  | .text s =>
    match origin.embeds s with
    | some v => .ok v
    | none => if origin = .json then .error malformedJson else .ok (.str .raw s)
  | _ => embeddedValue origin d

/-- The text of a path argument; none for NULL. -/
def pathText? (d : Datum) : Option String := (d.text?).map untilZero

def JNode.findPath (v : JNode) (p : String) : Except String (Option JNode) :=
  match v.find (p.length + 1) (p.toList.drop 1) with
  | .ok r => .ok r
  | .error _ => .error (badPathMessage p)

def isWordText (s : String) : Bool := s.all fun c => c.isAlphanum || c = '_'

/-- The full path that the right side of an arrow stands for. -/
def arrowPath (d : Datum) (p : String) : String :=
  if p.startsWith "$" then p
  else
    match d with
    | .integer _ => "$[" ++ p ++ "]"
    | _ =>
      if isWordText p then "$." ++ p
      else if p.startsWith "[" && p.length ≥ 3 && p.endsWith "]" then "$" ++ p
      else "$.\"" ++ p ++ "\""

/-- The SQL value taken out of a JSON value. -/
def JNode.sqlValue (v : JNode) : Except String Datum :=
  match v.toDatum with
  | .ok d => .ok d
  | .error _ => .error malformedJson

/-- How `json_extract` and the arrows give what one path finds: as an SQL value, as JSON text
(`->`), or as an SQL value from short paths (`->>`). -/
inductive ExtractStyle where
  | sql
  | arrowJson
  | arrowSql
deriving DecidableEq

/-- The values that paths find in JSON; none as soon as a path is NULL. -/
def findAll (style : ExtractStyle) (v : JNode) :
    List Datum → Except String (Option (List (Option JNode)))
  | [] => .ok (some [])
  | p :: rest =>
    match pathText? p with
    | none => .ok none
    | some t => do
      let full := if style = .sql then t else arrowPath p t
      if !full.startsWith "$" then throw (badPathMessage t)
      match v.find (full.length + 1) (full.toList.drop 1) with
      | .error _ => throw (badPathMessage t)
      | .ok r =>
        match ← findAll style v rest with
        | some rs => pure (some (r :: rs))
        | none => pure none

/-- `json_extract`, `jsonb_extract` and the arrows. One path gives what it finds (NULL when
nothing; an array or object in binary form for `jsonb_extract`), several give a JSON array of
what they find, `null` where nothing. -/
def extractValues (style : ExtractStyle) (form : JsonForm) (x : Datum) (ps : List Datum) :
    Except String Datum := do
  match ← jsonArgument x with
  | none => pure .null
  | some v =>
    match ← findAll style v ps with
    | none => pure .null
    | some [r] =>
      match r with
      | none => pure .null
      | some w =>
        if style = .arrowJson then pure (.text w.render)
        else if form = .binary && w.isContainer then pure (form.result w)
        else w.sqlValue
    | some rs => form.ofBuiltText (JNode.arr (rs.map fun r => r.getD .null)).render

/-- Whether JSON text or bytes are valid under `json_valid` flags: `1` standard JSON text, `2`
JSON5 text, `4` and `8` JSON in binary form (superficially, or fully read). -/
def validity (flags : Nat) (x : Datum) : Datum :=
  let ofText (s : String) : Datum :=
    if flags % 4 = 0 || s.isEmpty then .integer 0
    else
      match readJsonText s with
      | .ok (_, ext) => .integer (if flags / 2 % 2 = 1 || !ext then 1 else 0)
      | .error _ => .integer 0
  match x with
  | .null => .null
  | .blob b =>
    if looksLikeBinaryJson b then
      if flags / 4 % 2 = 1 then .integer 1
      else if flags / 8 % 2 = 1 then .integer (if (binaryJson? b).isSome then 1 else 0)
      else .integer 0
    else ofText (bytesText b)
  | _ => ofText ((x.text?).getD "")

/-- The place, counted in characters from one, where JSON text goes wrong; `0` for valid JSON. -/
def errorPosition (x : Datum) : Datum :=
  let ofText (s : String) : Datum :=
    match readJsonText s with
    | .ok _ => .integer 0
    | .error e => .integer (e + 1)
  match x with
  | .null => .null
  | .blob b =>
    if looksLikeBinaryJson b then .integer (if (binaryJson? b).isSome then 0 else 1)
    else ofText (bytesText b)
  | _ => ofText ((x.text?).getD "")

/-- Applies edits (pairs of a path and a value) in turn; a NULL path is skipped. -/
def applyEdits (mode : EditMode) (origin : Nat → TextOrigin) :
    Nat → JNode → List Datum → Except String JNode
  | _, v, [] => .ok v
  | _, v, [_] => .ok v
  | i, v, p :: value :: rest =>
    match pathText? p with
    | none => applyEdits mode origin (i + 2) v rest
    | some t => do
      if !t.startsWith "$" then throw (badPathMessage t)
      let ins ← editValue (origin (i + 1)) value
      if t.length = 1 then
        applyEdits mode origin (i + 2) (if mode = .replace || mode = .set then ins else v) rest
      else
        match v.edit (t.length + 1) mode ins (t.toList.drop 1) with
        | .error _ => throw (badPathMessage t)
        | .ok (.changed w) => applyEdits mode origin (i + 2) w rest
        | .ok _ => applyEdits mode origin (i + 2) v rest

/-- `json_insert`, `json_replace` and `json_set` (and their binary forms): the JSON with the
edits applied. -/
def editFunction (name : String) (mode : EditMode) (form : JsonForm) (origin : Nat → TextOrigin) :
    List Datum → Except String Datum
  | [] => .ok .null
  | x :: rest => do
    if rest.length % 2 = 1 then throw (name ++ "() needs an odd number of arguments")
    match ← jsonArgument x with
    | none => pure .null
    | some v => pure (form.result (← applyEdits mode origin 1 v rest))

/-- Removes the values at paths in turn; none as soon as a path is NULL or is `$` itself. -/
def removeAll (v : JNode) : List Datum → Except String (Option JNode)
  | [] => .ok (some v)
  | p :: rest =>
    match pathText? p with
    | none => .ok none
    | some t => do
      if !t.startsWith "$" then throw (badPathMessage t)
      if t.length = 1 then pure none
      else
        match v.edit (t.length + 1) .remove .null (t.toList.drop 1) with
        | .error _ => throw (badPathMessage t)
        | .ok (.changed w) => removeAll w rest
        | .ok _ => removeAll v rest

/-- The number of items of the array a JSON value is, `0` for other values. -/
def JNode.arrayLength : JNode → Nat
  | .arr xs => xs.length
  | _ => 0

/-- Pairs of labels and values for `json_object`: labels must be text. -/
def objectMembers (origin : Nat → TextOrigin) : Nat → List Datum → Except String (List (JLabel × JNode))
  | _, [] => .ok []
  | i, k :: v :: rest => do
    let label ← match k with
      | .text s => pure s
      | _ => throw "json_object() labels must be TEXT"
    let value ← embeddedValue (origin (i + 1)) v
    pure (((.raw, label), value) :: (← objectMembers origin (i + 2) rest))
  | _, [_] => .error "json_object() requires an even number of arguments"

def patchDepth : Nat := 2048

/-- `jsonb(x)`: JSON in binary form; a blob that holds it comes back as it is. -/
def binaryOf (x : Datum) : Except String Datum := do
  match x with
  | .blob b =>
    if looksLikeBinaryJson b && (binaryJson? b).isSome then return .blob b
  | _ => pure ()
  match ← jsonArgument x with
  | some v => pure (.blob v.toBinary)
  | none => pure .null

/-- A JSON function that gives back JSON, in a form, applied to evaluated arguments with the
origin of each argument's text; `none` for a name and argument count that name no such
function. The names are those of the text form. -/
def jsonBuilder (form : JsonForm) (name : String) (args : List Datum)
    (origin : Nat → TextOrigin) : Option (Except String Datum) :=
  match name, args with
  | "json_array", xs => some (do
      let items ← xs.zipIdx.mapM fun (d, i) => embeddedValue (origin i) d
      form.ofBuiltText (JNode.arr items).render)
  | "json_object", xs => some (do
      if xs.length % 2 = 1 then throw "json_object() requires an even number of arguments"
      form.ofBuiltText (JNode.obj (← objectMembers origin 0 xs)).render)
  | "json_extract", [] => some (.ok .null)
  | "json_extract", [_] => some (.ok .null)
  | "json_extract", x :: ps => some (extractValues .sql form x ps)
  | "json_insert", xs => some (editFunction "json_insert" .insert form origin xs)
  | "json_replace", xs => some (editFunction "json_replace" .replace form origin xs)
  | "json_set", xs => some (editFunction "json_set" .set form origin xs)
  | "json_remove", [] => some (.ok .null)
  | "json_remove", x :: ps => some (do
      match ← jsonArgument x with
      | none => pure .null
      | some v =>
        match ← removeAll v ps with
        | some w => pure (form.result w)
        | none => pure .null)
  | "json_patch", [x, y] => some (do
      match ← jsonArgument x with
      | none => pure .null
      | some target =>
        match ← jsonArgument y with
        | none => pure .null
        | some patch => pure (form.result (target.mergePatch patchDepth patch)))
  | _, _ => none

/-- A JSON scalar function applied to evaluated arguments, with the origin of each argument's
text; `none` for a name and argument count that name no JSON function. -/
def jsonFunction (name : String) (args : List Datum) (origins : List TextOrigin) :
    Option (Except String Datum) :=
  let origin (i : Nat) : TextOrigin := origins.getD i .plain
  if name.startsWith "jsonb_" then jsonBuilder .binary ("json_" ++ (name.drop 6).toString) args origin
  else
  match jsonBuilder .text name args origin with
  | some r => some r
  | none =>
  match name, args with
  | "json", [x] => some (do
      match ← jsonArgument x with
      | some v => pure (.text v.render)
      | none => pure .null)
  | "jsonb", [x] => some (binaryOf x)
  | "json_valid", [x] => some (.ok (validity 1 x))
  | "json_valid", [x, f] =>
    let n := f.intValue
    if n < 1 || n > 15 then some (.error "FLAGS parameter to json_valid() must be between 1 and 15")
    else some (.ok (validity n.toNat x))
  | "json_error_position", [x] => some (.ok (errorPosition x))
  | "json_quote", [x] => some ((embeddedValue (origin 0) x).map fun v => .text v.render)
  | "json_type", [x] => some (do
      match ← jsonArgument x with
      | some v => pure (.text v.typeName)
      | none => pure .null)
  | "json_type", [x, p] => some (do
      match ← jsonArgument x with
      | none => pure .null
      | some v =>
        match pathText? p with
        | none => pure .null
        | some t =>
          if !t.startsWith "$" then throw (badPathMessage t)
          match ← v.findPath t with
          | some w => pure (.text w.typeName)
          | none => pure .null)
  | "json_array_length", [x] => some (do
      match ← jsonArgument x with
      | some v => pure (.integer v.arrayLength)
      | none => pure .null)
  | "json_array_length", [x, p] => some (do
      match ← jsonArgument x with
      | none => pure .null
      | some v =>
        match pathText? p with
        | none => pure .null
        | some t =>
          if !t.startsWith "$" then throw (badPathMessage t)
          match ← v.findPath t with
          | some w => pure (.integer w.arrayLength)
          | none => pure .null)
  | "->", [x, p] => some (extractValues .arrowJson .text x [p])
  | "->>", [x, p] => some (extractValues .arrowSql .text x [p])
  | "json_pretty", [x] => some (do
      match ← jsonArgument x with
      | some v => pure (.text (v.pretty "    " 0))
      | none => pure .null)
  | "json_pretty", [x, i] => some (do
      match ← jsonArgument x with
      | some v => pure (.text (v.pretty (((pathText? i).getD "    ")) 0))
      | none => pure .null)
  | _, _ => none

def jsonResultFunctions : List String :=
  ["json", "json_array", "json_object", "json_quote", "json_insert", "json_replace", "json_set",
   "json_remove", "json_patch", "json_group_array", "json_group_object"]

/-- The origin of the text a call gives: JSON functions make JSON, and `json_extract` takes a
value out of JSON (with several paths it makes a JSON array). -/
def callOrigin (name : String) (argCount : Nat) : TextOrigin :=
  let n := name.toLower
  if jsonResultFunctions.contains n then .json
  else if n = "json_extract" then (if argCount > 2 then .json else .extracted)
  else .plain

end RosterSync.Database
