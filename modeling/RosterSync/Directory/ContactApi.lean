import RosterSync.Directory.Entity

/-!
The contact API's HTTP client: its access token and its two calls.

Every call needs an access token. The client keeps the last token it fetched with its expiry on
the monotonic clock. A token whose expiry is after the clock's reading is used as it is; otherwise
the token endpoint is asked for a new one. An answer of the token endpoint with a non-zero errcode
or an empty token is the API's failure. A good token is kept until 300 s before the end of the
lifetime the endpoint gives, or only until the reading taken on its arrival when that lifetime is
300 s or less. The clock's instants are whole seconds in a signed 64-bit count from an origin one
second before the clock starts: a token whose expiry lies past the last of them stops the program.

A call sends its request with the token. When the answer's errcode says that the token is invalid
or expired (40014, 42001, 42009), the call forgets the token, takes a new one and sends the
request once more; a failure to take the new token is the call's failure. A non-zero errcode of
the last answer is the API's failure, and a contact answer without a contact is a decode failure.
A contact's profile is kept only when it names a corporation or carries attributes.

The network is the client's environment. It gives the answer to each request by the request's
position among all the requests the client sent, and each reading of the monotonic clock, in
nanoseconds, by the reading's position among all readings. A failure of the exchange itself (no
connection, or a body that does not decode) is an answer too.
-/

-- natural powers take the core instance even where the monoid power is in scope
attribute [local instance (2000)] instPowNat

namespace RosterSync.Directory.ContactApi

open RosterSync.Json

/-- What the token endpoint answers; a member that is missing takes its default. -/
structure TokenReply where
  errcode : Int := 0
  errmsg : String := ""
  accessToken : String := ""
  expiresIn : Nat := 0

/-- What the contact API answers: its error code and message, and the rest of the answer. -/
structure ApiReply (α : Type) where
  errcode : Int := 0
  errmsg : String := ""
  payload : α

structure RawContact where
  externalUserId : String
  name : String := ""
  avatar : String := ""
  gender : Nat := 0
  unionId : String := ""
  externalProfile : Option Value := none

/-- Whether a profile names a corporation or carries attributes. -/
def profileHasContent (profile : Value) : Bool :=
  ((profile.get? "external_corp_name").bind Value.asStr?).any (fun s => !s.isEmpty) ||
    ((profile.get? "external_attr").bind Value.asArr?).any (fun a => !a.isEmpty)

/-- The contact of a raw contact; a profile without content is dropped. -/
def RawContact.toContact (raw : RawContact) : Contact :=
  { externalUserId := raw.externalUserId, name := raw.name, avatar := raw.avatar,
    gender := raw.gender, unionId := raw.unionId,
    externalProfile := raw.externalProfile.filter profileHasContent }

/-- A token and the reading of the monotonic clock at which it expires. -/
structure CachedToken where
  value : String
  expiresAt : Nat

inductive Request where
  /-- A request for an access token, with the corporation's credentials. -/
  | token
  /-- A contact way for a staff member, with an access token. -/
  | contactWay (accessToken : String) (request : ContactWayRequest)
  /-- An external contact, with an access token. -/
  | contact (accessToken : String) (externalUserId : String)

def Request.isToken : Request → Bool
  | .token => true
  | _ => false

@[simp] theorem Request.isToken_token : Request.token.isToken = true := rfl
@[simp] theorem Request.isToken_contactWay (t : String) (r : ContactWayRequest) :
    (Request.contactWay t r).isToken = false := rfl
@[simp] theorem Request.isToken_contact (t id : String) : (Request.contact t id).isToken = false :=
  rfl

/-- The client's environment: the answer to each request and each reading of the monotonic
clock, by position. -/
structure Net where
  tokenAnswer : Nat → Except DirectoryError TokenReply
  wayAnswer : Nat → Except DirectoryError (ApiReply ContactWay)
  contactAnswer : Nat → Except DirectoryError (ApiReply (Option RawContact))
  clock : Nat → Nat

/-- The client's state: its cached token, the requests it sent, oldest first, and how many times
it read the clock. -/
structure Session where
  cache : Option CachedToken := none
  sent : List Request := []
  readings : Nat := 0

namespace Session

def tick (s : Session) : Session := { s with readings := s.readings + 1 }

def send (s : Session) (r : Request) : Session := { s with sent := s.sent ++ [r] }

def forget (s : Session) : Session := { s with cache := none }

def keep (s : Session) (token : CachedToken) : Session := { s with cache := some token }

@[simp] theorem tick_sent (s : Session) : s.tick.sent = s.sent := rfl
@[simp] theorem tick_readings (s : Session) : s.tick.readings = s.readings + 1 := rfl
@[simp] theorem tick_cache (s : Session) : s.tick.cache = s.cache := rfl
@[simp] theorem send_sent (s : Session) (r : Request) : (s.send r).sent = s.sent ++ [r] := rfl
@[simp] theorem send_readings (s : Session) (r : Request) : (s.send r).readings = s.readings := rfl
@[simp] theorem send_cache (s : Session) (r : Request) : (s.send r).cache = s.cache := rfl
@[simp] theorem forget_sent (s : Session) : s.forget.sent = s.sent := rfl
@[simp] theorem forget_readings (s : Session) : s.forget.readings = s.readings := rfl
@[simp] theorem forget_cache (s : Session) : s.forget.cache = none := rfl
@[simp] theorem keep_sent (s : Session) (t : CachedToken) : (s.keep t).sent = s.sent := rfl
@[simp] theorem keep_readings (s : Session) (t : CachedToken) :
    (s.keep t).readings = s.readings := rfl
@[simp] theorem keep_cache (s : Session) (t : CachedToken) : (s.keep t).cache = some t := rfl

end Session

/-- What a step of the client comes to: none when the program stops, else the answer and the
session after. -/
abbrev Outcome (α : Type) := Option (Except DirectoryError α × Session)

/-- The margin before a token's advertised expiry at which it is refreshed, in seconds. -/
def expiryMarginSecs : Nat := 300

def nanosPerSecond : Nat := 1000000000

/-- Error codes saying that the access token is invalid or expired. -/
def tokenErrcodes : List Int := [40014, 42001, 42009]

/-- Whether a reading of the monotonic clock plus a lifetime in seconds is an instant the clock
holds. -/
def expiryFits (reading ttl : Nat) : Bool :=
  1 + (reading + ttl * nanosPerSecond) / nanosPerSecond < 2 ^ (63 : Nat)

/-- Asks the token endpoint for a token and keeps a good one until its lifetime, less the margin,
has passed from the reading taken on its arrival. -/
def fetchToken (net : Net) (s : Session) : Outcome String :=
  let answer := net.tokenAnswer s.sent.length
  let s := s.send .token
  match answer with
  | .error e => some (.error e, s)
  | .ok reply =>
    if reply.errcode != 0 || reply.accessToken.isEmpty then
      some (.error (.api reply.errcode reply.errmsg), s)
    else
      let ttl := reply.expiresIn - expiryMarginSecs
      let fetchedAt := net.clock s.readings
      if expiryFits fetchedAt ttl then
        some (.ok reply.accessToken,
          s.tick.keep ⟨reply.accessToken, fetchedAt + ttl * nanosPerSecond⟩)
      else none

/-- A token: the cached one while it has not expired at the clock's reading, else a fetched
one. -/
def accessToken (net : Net) (s : Session) : Outcome String :=
  let now := net.clock s.readings
  match s.cache with
  | some token =>
    if now < token.expiresAt then some (.ok token.value, s.tick) else fetchToken net s.tick
  | none => fetchToken net s.tick

/-- Takes a token and sends a request with it; the answer is the network's to that request. -/
def attempt {R : Type} (net : Net) (request : String → Request)
    (answer : Nat → Except DirectoryError R) (s : Session) : Outcome R :=
  match accessToken net s with
  | none => none
  | some (.error e, s) => some (.error e, s)
  | some (.ok token, s) => some (answer s.sent.length, s.send (request token))

/-- A call of the contact API: an attempt, and after an answer saying that the token is invalid
or expired, a second attempt without the cached token. -/
def exchange {α : Type} (net : Net) (request : String → Request)
    (answer : Nat → Except DirectoryError (ApiReply α)) (s : Session) : Outcome (ApiReply α) :=
  match attempt net request answer s with
  | some (.ok reply, s) =>
    if tokenErrcodes.contains reply.errcode then attempt net request answer s.forget
    else some (.ok reply, s)
  | outcome => outcome

/-- The answer of a call read from its last reply: a non-zero errcode is the API's failure. -/
def ApiReply.result {α : Type} : Except DirectoryError (ApiReply α) → Except DirectoryError α
  | .ok reply => if reply.errcode != 0 then .error (.api reply.errcode reply.errmsg)
    else .ok reply.payload
  | .error e => .error e

def addContactWay (net : Net) (request : ContactWayRequest) (s : Session) : Outcome ContactWay :=
  (exchange net (.contactWay · request) net.wayAnswer s).map fun (r, s) => (ApiReply.result r, s)

/-- Reads an external contact; an answer without a contact is a decode failure. -/
def getExternalContact (net : Net) (externalUserId : String) (s : Session) : Outcome Contact :=
  (exchange net (.contact · externalUserId) net.contactAnswer s).map fun (r, s) =>
    ((ApiReply.result r).bind fun contact =>
      match contact with
      | some raw => .ok raw.toContact
      | none => .error (.decode "response without external_contact"), s)

inductive Call where
  | addContactWay (request : ContactWayRequest)
  | getExternalContact (externalUserId : String)

inductive Answer where
  | contactWay (result : Except DirectoryError ContactWay)
  | contact (result : Except DirectoryError Contact)

def Call.run (net : Net) : Call → Session → Option (Answer × Session)
  | .addContactWay request, s =>
    (ContactApi.addContactWay net request s).map fun (r, s) => (.contactWay r, s)
  | .getExternalContact externalUserId, s =>
    (ContactApi.getExternalContact net externalUserId s).map fun (r, s) => (.contact r, s)

/-- Makes calls one after another; none when the program stops in one of them. -/
def runCalls (net : Net) : List Call → Session → Option (List Answer × Session)
  | [], s => some ([], s)
  | c :: rest, s =>
    match c.run net s with
    | none => none
    | some (a, s) =>
      match runCalls net rest s with
      | none => none
      | some (answers, s) => some (a :: answers, s)

end RosterSync.Directory.ContactApi
