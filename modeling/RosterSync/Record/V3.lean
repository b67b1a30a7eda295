import RosterSync.Config
import RosterSync.Record.Filter.Tree
import RosterSync.Record.Memory

/-!
The requests of the header-signed record store client.

The client speaks to resource-style endpoints under `/v3/app/worksheets/`: a worksheet's rows
are `/v3/app/worksheets/{alias}/rows`, one row is that path, a slash and the row id as it is
given, a filter goes to the rows path with `/list`, and the schema is the worksheet's own path.
The URL of a request is the configured API base without its trailing slashes, followed by the
path. Every request carries the app key and the signature in two headers; writes send the fields
as a list of `{id, value}` objects, values as they are, and ask the platform to trigger its
workflows.

A call of a record store is answered by one request: `Client.requestOf` gives the request this
client sends for a call as the in-memory store logs it.
-/

namespace RosterSync.Record.V3

open RosterSync.Json

inductive Method where
  | get
  | post
  | patch
  | delete
deriving DecidableEq, Repr

/-- A request as the client hands it to its HTTP library: method, URL text, headers, and JSON
body. -/
structure Request where
  method : Method
  url : String
  headers : List (String × String)
  body : Option Value

def appKeyHeader : String := "HAP-Appkey"

def signHeader : String := "HAP-Sign"

def trimTrailingSlashes (s : String) : String :=
  String.ofList (s.toList.reverse.dropWhile (· == '/')).reverse

/-- A client: the base its paths are appended to, and its credentials. -/
structure Client where
  base : String
  appKey : String
  sign : String

def Client.ofConfig (c : RecordStoreConfig) : Client :=
  { base := trimTrailingSlashes c.apiBase, appKey := c.appKey, sign := c.sign }

def worksheetPath (w : Worksheet) : String := "/v3/app/worksheets/" ++ w.platformAlias

def rowsPath (w : Worksheet) : String := worksheetPath w ++ "/rows"

/-- The path of one row: the rows path, a slash and the row id as it is given. -/
def rowPath (w : Worksheet) (rowId : String) : String := rowsPath w ++ "/" ++ rowId

/-- Fields as a list of `{id, value}` objects, values as they are. -/
def fieldsBody (fields : Fields) : Value :=
  .arr (fields.map fun kv => Value.objOf [("id", .str kv.1), ("value", kv.2)])

def writeBody (fields : Fields) : Value :=
  Value.objOf [("fields", fieldsBody fields), ("triggerWorkflow", .bool true)]

namespace Client

/-- A signed request of a method to a path. -/
def request (c : Client) (method : Method) (path : String) (body : Option Value) : Request :=
  { method, url := c.base ++ path, headers := [(appKeyHeader, c.appKey), (signHeader, c.sign)],
    body }

def createRow (c : Client) (w : Worksheet) (fields : Fields) : Request :=
  c.request .post (rowsPath w) (some (writeBody fields))

def getRow (c : Client) (w : Worksheet) (rowId : String) : Request :=
  c.request .get (rowPath w rowId) none

def filterRows (c : Client) (w : Worksheet) (filter : Filter) (page : Page) : Request :=
  c.request .post (rowsPath w ++ "/list") (some (Value.objOf
    [("pageSize", .num (.nat page.size)), ("pageIndex", .num (.nat page.index)),
      ("filter", filter.tree.toJson)]))

def updateRow (c : Client) (w : Worksheet) (rowId : String) (fields : Fields) : Request :=
  c.request .patch (rowPath w rowId) (some (writeBody fields))

def deleteRow (c : Client) (w : Worksheet) (rowId : String) : Request :=
  c.request .delete (rowPath w rowId) none

def schema (c : Client) (w : Worksheet) : Request :=
  c.request .get (worksheetPath w) none

/-- The request this client sends for a call as the in-memory store logs it; the log keeps no
filter, so a filter call has none. -/
def requestOf (c : Client) (call : Call) : Option Request :=
  match call.op, call.rowId, call.fields with
  | .create, _, some fields => some (c.createRow call.worksheet fields)
  | .get, some rowId, _ => some (c.getRow call.worksheet rowId)
  | .update, some rowId, some fields => some (c.updateRow call.worksheet rowId fields)
  | .delete, some rowId, _ => some (c.deleteRow call.worksheet rowId)
  | .schema, _, _ => some (c.schema call.worksheet)
  | _, _, _ => none

end Client

end RosterSync.Record.V3
