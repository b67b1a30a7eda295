import RosterSync.Record.Error
import RosterSync.Record.Row

/-!
Answers of the record store's HTTP endpoints, as both protocol generations read them.

Every answer of the platform is an envelope `{success, error_code, error_msg, data}` in which a
missing member takes its default. An answer whose status is outside `200..299` is a status failure
carrying the envelope's own message when the body is an envelope with a non-empty one, and the
first 256 characters of the body otherwise. A body of a success status that is no envelope is a
decode failure, an envelope without success is the provider's error, and any other envelope hands
its `data` to the operation. Envelopes are decoded by the JSON library: `EnvelopeReader` stands for
that decoder, an envelope or the library's message for any body.

A page of rows is an object whose `rows` member is missing, null, or an array of row objects, and
whose `total` counts the matches when it is an unsigned 64-bit integer. A row object carries its
id under the first of `rowid`, `rowId` and `id` that holds a string, and keeps the whole object as
its fields. A lookup of one row reads a null answer and the provider's row-not-found code as no
row; the header-signed generation reads the status 404 so too.
-/

namespace RosterSync.Record

open RosterSync.Json

/-- The envelope of an answer; a member that is missing takes its default. -/
structure Envelope where
  success : Bool := false
  errorCode : Int := 0
  errorMsg : String := ""
  data : Value := .null

/-- A decoder of envelopes from body text: the envelope, or the decoder's message. -/
abbrev EnvelopeReader := String → Except String Envelope

/-- An answer as the HTTP library receives it: the status and the body text. -/
structure Response where
  status : Nat
  body : String

namespace Http

/-- The longest excerpt of a body that a failure carries, in characters. -/
def excerptChars : Nat := 256

/-- The first 256 characters of a body. -/
def excerpt (body : String) : String :=
  String.ofList (body.toList.take excerptChars)

/-- Whether a status is a success, `200..299`. -/
def isSuccess (status : Nat) : Bool :=
  200 ≤ status && status ≤ 299

/-- The `data` of the body of a success status. -/
def parseEnvelope (read : EnvelopeReader) (body : String) : Except StoreError Value :=
  match read body with
  | .error e => .error (.decode (e ++ ": " ++ excerpt body))
  | .ok envelope =>
    if envelope.success then .ok envelope.data
    else .error (.provider envelope.errorCode envelope.errorMsg)

/-- The message of a failure status: the envelope's own message when the body is an envelope
with a non-empty one, the excerpt of the body otherwise. -/
def statusMessage (read : EnvelopeReader) (body : String) : String :=
  (((read body).toOption.map (·.errorMsg)).filter fun m => !m.isEmpty).getD (excerpt body)

/-- The `data` of an answer, or the failure it stands for. A failure of the exchange itself (the
request could not be sent or the body not be read) passes through. -/
def execute (read : EnvelopeReader) (reply : Except StoreError Response) :
    Except StoreError Value := do
  let response ← reply
  if isSuccess response.status then parseEnvelope read response.body
  else throw (.status response.status (statusMessage read response.body))

/-- A row of `w` read from a provider's row object. -/
def parseRow (w : Worksheet) : Value → Except StoreError Row
  | .obj fields =>
    match Row.ofRaw? w fields with
    | some row => .ok row
    | none => .error (.decode "row without id")
  | _ => .error (.decode "row is not an object")

/-- The rows of a page's `rows` member: missing or null is none, an array is read row by row. -/
def pageRows (w : Worksheet) : Option Value → Except StoreError (List Row)
  | some (.arr raws) => raws.mapM (parseRow w)
  | some .null | none => .ok []
  | some _ => .error (.decode "rows is not an array")

/-- A page `{rows: [...], total: n}` of `w`; a `total` that is no unsigned 64-bit integer is 0. -/
def parseRowPage (w : Worksheet) : Value → Except StoreError RowPage
  | .obj members => do
    let data := Value.obj members
    let total := ((data.get? "total").bind Value.asU64?).getD 0
    let rows ← pageRows w (data.get? "rows")
    pure { rows, total }
  | _ => .error (.decode "row page is not an object")

/-- The answer of a filter, in both generations: the envelope's `data` read as a page. -/
def filterRows (read : EnvelopeReader) (w : Worksheet) (reply : Except StoreError Response) :
    Except StoreError RowPage :=
  execute read reply >>= parseRowPage w

end Http

namespace V2

/-- How the body-signed generation reads the answer of a row lookup: a null answer and the
provider's row-not-found code are no row. -/
def readRow (w : Worksheet) : Except StoreError Value → Except StoreError (Option Row)
  | .ok .null => .ok none
  | .ok data => (Http.parseRow w data).map some
  | .error (.provider code message) =>
    if code = StoreError.rowNotFoundCode then .ok none else .error (.provider code message)
  | .error e => .error e

/-- The answer of a row lookup of the body-signed generation. -/
def getRow (read : EnvelopeReader) (w : Worksheet) (reply : Except StoreError Response) :
    Except StoreError (Option Row) :=
  readRow w (Http.execute read reply)

end V2

namespace V3

/-- How the header-signed generation reads the answer of a row lookup: a null answer, the
provider's row-not-found code and the status 404 are no row. -/
def readRow (w : Worksheet) : Except StoreError Value → Except StoreError (Option Row)
  | .ok .null => .ok none
  | .ok data => (Http.parseRow w data).map some
  | .error (.provider code message) =>
    if code = StoreError.rowNotFoundCode then .ok none else .error (.provider code message)
  | .error (.status 404 _) => .ok none
  | .error e => .error e

/-- The answer of a row lookup of the header-signed generation. -/
def getRow (read : EnvelopeReader) (w : Worksheet) (reply : Except StoreError Response) :
    Except StoreError (Option Row) :=
  readRow w (Http.execute read reply)

end V3

end RosterSync.Record
