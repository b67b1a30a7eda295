import RosterSync.Json.Write

/-!
Directory entities and their failures.

The directory knows staff members and departments of each tenant. An entity has an external id,
attributes by purpose (any JSON values), the external ids of its departments, and the time of
its last change in Unix milliseconds. A change to an entity is a creation, an update or a
deletion. Reading the directory can fail in its database, with an API error code, in transport,
or on data it cannot decode; database and transport failures are worth retrying.

The contact API issues QR contact ways for a staff member and reads external contacts.
-/

namespace RosterSync.Directory

open RosterSync.Json

inductive Kind where
  | staff
  | department
deriving DecidableEq, Repr, Inhabited

def Kind.name : Kind → String
  | .staff => "staff"
  | .department => "department"

def Kind.ofName? : String → Option Kind
  | "staff" => some .staff
  | "department" => some .department
  | _ => none

inductive Action where
  | create
  | update
  | delete
deriving DecidableEq, Repr, Inhabited

def Action.name : Action → String
  | .create => "create"
  | .update => "update"
  | .delete => "delete"

def Action.ofName? : String → Option Action
  | "create" => some .create
  | "update" => some .update
  | "delete" => some .delete
  | _ => none

structure Entity where
  kind : Kind
  tenantId : String
  externalId : String
  /-- Attributes by purpose, keys sorted and unique. -/
  attributes : List (String × Value)
  departmentIds : List String
  /-- Time of the last change, Unix milliseconds. -/
  updatedAt : Int
deriving Inhabited

namespace Entity

/-- A new entity with no attributes and no departments. -/
def new (kind : Kind) (tenantId externalId : String) (updatedAt : Int) : Entity :=
  { kind, tenantId, externalId, attributes := [], departmentIds := [], updatedAt }

/-- The entity with an attribute set (replacing an earlier value of the same purpose). -/
def withAttribute (e : Entity) (key : String) (v : Value) : Entity :=
  { e with attributes := Value.insertSorted key v e.attributes }

def withDepartments (e : Entity) (ids : List String) : Entity :=
  { e with departmentIds := ids }

def attribute? (e : Entity) (key : String) : Option Value :=
  (e.attributes.find? (·.1 == key)).map (·.2)

end Entity

/-- A change notice for one entity, named by the entity's kind. -/
structure Event where
  entity : Entity
  action : Action

/-- A failure of the directory or the contact API. -/
inductive DirectoryError where
  | database (message : String)
  | api (code : Int) (message : String)
  | transport (message : String)
  | decode (message : String)
deriving DecidableEq, Repr, Inhabited

namespace DirectoryError

def message : DirectoryError → String
  | .database m => "directory database error: " ++ m
  | .api c m => "directory API error " ++ intText c ++ ": " ++ m
  | .transport m => "directory transport error: " ++ m
  | .decode m => "malformed directory data: " ++ m

def isRetryable : DirectoryError → Bool
  | .database _ => true
  | .transport _ => true
  | .api _ _ => false
  | .decode _ => false

def variant : DirectoryError → String
  | .database _ => "Database"
  | .api _ _ => "Api"
  | .transport _ => "Transport"
  | .decode _ => "Decode"

end DirectoryError

structure ContactWayRequest where
  staffId : String
  state : String
  skipVerify : Bool

structure ContactWay where
  configId : String
  qrCode : String

structure Contact where
  externalUserId : String
  name : String
  avatar : String
  gender : Nat
  unionId : String
  externalProfile : Option Value
deriving Inhabited

end RosterSync.Directory
