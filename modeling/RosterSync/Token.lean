import RosterSync.Text.Base64

/-!
Correlation tokens.

A QR contact way carries a short `state` text back to its issuer. A token is `mdy:` followed by
the identifier it correlates: an identifier that is a UUID (32 hex digits once its dashes are
removed) is written as its 16 bytes in unpadded URL-safe base64, 22 characters; any other
identifier is written as it is. Decoding strips the prefix when present and turns a payload of
exactly 16 encoded bytes back into the dashed lowercase UUID; any other payload is returned as it
is, so decoding never fails.

Base64 and UUIDs come from libraries: `Codecs` stands for what the codec takes from them, and
`Codecs.standard` is the libraries the program links.
-/

namespace RosterSync.Token

/-- The prefix that marks a state as a correlation token. -/
def statePrefix : String := "mdy:"

/-- The longest state a contact way accepts, in bytes. -/
def maxStateLen : Nat := 30

/-- The value of a hex digit of either case. -/
def hexValue? (c : Char) : Option Nat :=
  if '0' ≤ c ∧ c ≤ '9' then some (c.toNat - 48)
  else if 'a' ≤ c ∧ c ≤ 'f' then some (c.toNat - 87)
  else if 'A' ≤ c ∧ c ≤ 'F' then some (c.toNat - 55)
  else none

def hexBytes : List Char → Option (List Nat)
  | a :: b :: rest => do
    let hi ← hexValue? a
    let lo ← hexValue? b
    let tail ← hexBytes rest
    pure ((hi * 16 + lo) :: tail)
  | [] => some []
  | [_] => none

def byteHex (b : Nat) : List Char :=
  let digit (n : Nat) : Char := if n < 10 then Char.ofNat (48 + n) else Char.ofNat (87 + n)
  [digit (b / 16), digit (b % 16)]

/-- The dashed lowercase form `8-4-4-4-12` of 16 bytes. -/
def hyphenated (bytes : List Nat) : String :=
  let hex := bytes.flatMap byteHex
  String.ofList (hex.take 8 ++ '-' :: (hex.drop 8).take 4 ++ '-' :: (hex.drop 12).take 4 ++
    '-' :: (hex.drop 16).take 4 ++ '-' :: hex.drop 20)

/-- What the codec takes from its libraries: unpadded URL-safe base64 both ways, the bytes the
UUID parser reads from 32 hex digits, and the hyphenated form of a UUID's bytes. -/
structure Codecs where
  base64Encode : List Nat → List Char
  base64Decode : List Char → Option (List Nat)
  uuidBytes : List Char → Option (List Nat)
  hyphenated : List Nat → String

def Codecs.standard : Codecs :=
  ⟨Text.Base64.encode, Text.Base64.decode, hexBytes, Token.hyphenated⟩

variable (L : Codecs)

/-- The 16 bytes of an identifier that is a UUID once its dashes are removed. -/
def uuidBytes? (raw : String) : Option (List Nat) :=
  let compact := raw.toList.filter (· ≠ '-')
  if compact.length = 32 then L.uuidBytes compact else none

def encode (raw : String) : String :=
  match uuidBytes? L raw with
  | some bytes => statePrefix ++ String.ofList (L.base64Encode bytes)
  | none => statePrefix ++ raw

def decode (token : String) : String :=
  let payload := if token.startsWith statePrefix then token.drop statePrefix.length |>.toString
    else token
  match L.base64Decode payload.toList with
  | some bytes => if bytes.length = 16 then L.hyphenated bytes else payload
  | none => payload

/-- Whether a state was issued as a correlation token. -/
def isCorrelationState (state : String) : Bool := state.startsWith statePrefix

end RosterSync.Token
