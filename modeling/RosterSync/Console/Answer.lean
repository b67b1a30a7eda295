import RosterSync.Console.World
import RosterSync.Console.Database

/-!
Answering one request line.

A line is read as JSON; a line that is not JSON is refused as such, a request without a text
`op` is refused for that member, and one whose `op` is not a known operation is refused as
unknown. Every other request is answered by its operation,
and a request that cannot be read is answered with the reason. The wall clock is fixed for a
session, so an answer depends on the request alone.
-/

namespace RosterSync.Console

open RosterSync.Json

/-- The wall clock of a session, in Unix milliseconds: 2030-01-01T00:00:00Z. -/
def sessionClock : Int := 1893456000000

def operation? (now : Int) : String → Option (Value → Decode Value)
  | "token_encode" => some tokenEncode
  | "token_decode" => some tokenDecode
  | "token_is_state" => some tokenIsState
  | "attachment_file_name" => some attachmentName
  | "encode_value" => some encodeValueReply
  | "mapping" => some mappingReply
  | "build_fields" => some buildFieldsReply
  | "filter_matches" => some filterMatches
  | "v2_translate" => some flatReply
  | "v3_translate" => some treeReply
  | "error_info" => some errorInfo
  | "retry_delay" => some retryDelay
  | "retry_run" => some retryRun
  | "filter_build" => some filterBuild
  | "entity_ops" => some entityOps
  | "defaults" => some fun _ => pure defaultsReply
  | "supervise" => some superviseReply
  | "page" => some pageReply
  | "row_text" => some rowText
  | "cursor_math" => some cursorMath
  | "keys" => some keysReply
  | "is_editable" => some editableReply
  | "config" => some configReply
  | "lifecycle" => some lifecycleReply
  | "record_store_http" => some storeHttpReply
  | "contact_api_http" => some contactsHttpReply
  | "redis_kv" => some redisReply
  | "kv" => some (kvReply now)
  | "world" => some (worldReply now)
  | "sql_directory" => some databaseReply
  | _ => none

def respond (now : Int) (req : Value) : Value :=
  match member? req "op" with
  | some (.str op) =>
    match operation? now op with
    | none => InputError.unknownOp.toJson
    | some run =>
      match run req with
      | .ok v => v
      | .error e => e.toJson
  | _ => (InputError.field "op").toJson

def answerLine (now : Int) (line : String) : String :=
  match parse? line with
  | none => InputError.notJson.toJson.render
  | some req => (respond now req).render

end RosterSync.Console
