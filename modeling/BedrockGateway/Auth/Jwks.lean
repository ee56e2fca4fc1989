/-
# Verifying tokens against published keys

The verifier keeps the keys an identity provider publishes, by their ids. It fetches
them when it has none, when the ones it has are old, and once more when a token names
a key that is not among them. The decoding of JSON and of JSON web tokens and keys is
a library's business; a parsed document of any shape is the verifier's.
-/

import BedrockGateway.Foundation.Json
import BedrockGateway.Foundation.Sequential
import BedrockGateway.Pipeline

namespace BedrockGateway

open Foundation

/-! ## Keys and documents -/

/-- What can be a key of a dictionary, of the values of a JSON document. A number or a
Boolean is never looked up. -/
inductive Kid
  | null
  | bool (value : Bool)
  | num (literal : NumLiteral)
  | str (text : String)
  deriving DecidableEq

namespace Kid

/-- The dictionary key a value is; none where the value is unhashable. -/
def ofJson : Json → Option Kid
  | .null => some .null
  | .bool value => some (.bool value)
  | .num literal => some (.num literal)
  | .str text => some (.str text)
  | .arr _ => none
  | .obj _ => none

/-- The dictionary key of a token's `kid`, which may be missing. -/
def ofHeader : Option String → Kid
  | none => .null
  | some kid => .str kid

end Kid

/-- What the verifier calls, over a type of keys. Errors are known by their texts. -/
structure JwtLibrary (Key : Type) where
  /-- `json.loads` -/
  loads : List UInt8 → Except String Json
  /-- `RSAAlgorithm.from_jwk` of an object, which may raise `InvalidKeyError`. -/
  fromJwk : List (String × Json) → Except String Key
  /-- The `kid` of `jwt.get_unverified_header`, which lets only a string be one. -/
  unverifiedKid : String → Except String (Option String)

section Document

variable {Key : Type} (lib : JwtLibrary Key)

/-- One entry of the comprehension in `_refresh`. An exception outside the gateway's own
classes is known by its class. -/
def signingKey : Json → Except Exn (Kid × Key)
  | .obj fields =>
      match entryOf "kid" fields with
      | none => .error (.other "KeyError")
      | some kid =>
          match lib.fromJwk fields with
          | .error _ => .error (.other "InvalidKeyError")
          | .ok key =>
              match Kid.ofJson kid with
              | none => .error (.other "TypeError")
              | some kid => .ok (kid, key)
  | _ => .error (.other "TypeError")

/-- The comprehension over the entries of a document. -/
def signingKeys : List Json → Except Exn (List (Kid × Key))
  | [] => .ok []
  | item :: items =>
      match signingKey lib item with
      | .error exn => .error exn
      | .ok entry =>
          match signingKeys items with
          | .error exn => .error exn
          | .ok entries => .ok (entry :: entries)

/-- The dictionary made of a parsed document. -/
def keysOfJwks : Json → Except Exn (Dict Kid Key)
  | .obj fields =>
      match iterItems ((entryOf "keys" fields).getD (.arr [])) with
      | none => .error (.other "TypeError")
      | some items => (signingKeys lib items).map Dict.ofList
  | _ => .error (.other "AttributeError")

end Document

/-! ## The verifier -/

/-- The arguments of `JwksVerifier`. -/
structure JwksSettings where
  jwksUrl : String
  issuer : String
  audience : String
  cacheTtlS : ℚ := 300

/-- The attributes of a `JwksVerifier` that change. -/
structure JwksCache (Key : Type) where
  keysByKid : Dict Kid Key := Dict.empty
  fetchedAt : ℚ := 0

/-- How `jwt.decode` fails. -/
inductive DecodeError
  | /-- `ExpiredSignatureError` -/
    expiredSignature
  | /-- Any other `InvalidTokenError`. -/
    invalidToken (text : String)

/-- The questions of the verifier: to the endpoint, the clock, its own attributes and the
library. -/
inductive JwksQuery (Key : Type)
  | /-- `self._http_get` -/
    httpGet (url : String)
  | /-- `time.monotonic` -/
    monotonic
  | /-- Read `self._keys_by_kid`. -/
    keysByKid
  | /-- Read `self._fetched_at`. -/
    fetchedAt
  | /-- Assign `self._keys_by_kid`. -/
    setKeysByKid (keys : Dict Kid Key)
  | /-- Assign `self._fetched_at`. -/
    setFetchedAt (instant : ℚ)
  | /-- `jwt.decode`, for RS256 tokens with `exp` and `iat`. -/
    decode (token : String) (key : Key) (audience issuer : String)

/-- The answers to a question. -/
@[reducible]
def JwksAnswer {Key : Type} : JwksQuery Key → Type
  | .httpGet _ => Except String (List UInt8)
  | .monotonic => ℚ
  | .keysByKid => Dict Kid Key
  | .fetchedAt => ℚ
  | .setKeysByKid _ => Unit
  | .setFetchedAt _ => Unit
  | .decode _ _ _ _ => Except DecodeError Claims

/-- A piece of the verifier's code. -/
abbrev Verify (Key α : Type) := Fallible (JwksQuery Key) JwksAnswer Exn α

/-- Pose a question. -/
abbrev pose {Key : Type} (q : JwksQuery Key) : Verify Key (JwksAnswer q) := Fallible.ask q

/-- The `AuthError` of a failed verification, under the default code. -/
def unauthenticated (message : String) : Exn := .auth message "UNAUTHENTICATED"

section Verifier

variable {Key : Type} (lib : JwtLibrary Key) (text : PyText) (settings : JwksSettings)

/-- `_refresh` -/
def refresh : Verify Key Unit := do
  let fetched ← pose (.httpGet settings.jwksUrl : JwksQuery Key)
  match fetched >>= lib.loads with
  | .error exc =>
      throw (.auth s!"unable to fetch JWKS from {settings.jwksUrl}: {exc}"
        "IDENTITY_PROVIDER_UNAVAILABLE")
  | .ok jwks =>
      match keysOfJwks lib jwks with
      | .error exn => throw exn
      | .ok keys => do
          pose (.setKeysByKid keys : JwksQuery Key)
          let now ← pose (.monotonic : JwksQuery Key)
          pose (.setFetchedAt now : JwksQuery Key)

/-- `_refresh_if_stale` -/
def refreshIfStale : Verify Key Unit := do
  let keys ← pose (.keysByKid : JwksQuery Key)
  if keys.size = 0 then refresh lib settings
  else
    let now ← pose (.monotonic : JwksQuery Key)
    let fetchedAt ← pose (.fetchedAt : JwksQuery Key)
    if settings.cacheTtlS ≤ now - fetchedAt then refresh lib settings else pure ()

/-- `_decode` -/
def decodeToken (token : String) (key : Key) : Verify Key Claims := do
  let decoded ← pose (.decode token key settings.audience settings.issuer : JwksQuery Key)
  match decoded with
  | .ok claims => pure claims
  | .error .expiredSignature => throw (unauthenticated "token expired")
  | .error (.invalidToken exc) => throw (unauthenticated s!"invalid token: {exc}")

/-- The lookup of a key, with one more refresh where it is missing. -/
def findKey (kid : Option String) : Verify Key (Option Key) := do
  let keys ← pose (.keysByKid : JwksQuery Key)
  match keys.get? (Kid.ofHeader kid) with
  | some key => pure (some key)
  | none =>
      refresh lib settings
      let keys ← pose (.keysByKid : JwksQuery Key)
      pure (keys.get? (Kid.ofHeader kid))

/-- `JwksVerifier.verify` -/
def verify (token : String) : Verify Key Claims :=
  match lib.unverifiedKid token with
  | .error exc => throw (unauthenticated s!"malformed token: {exc}")
  | .ok kid => do
      refreshIfStale lib settings
      let key ← findKey lib settings kid
      match key with
      | none => throw (unauthenticated s!"unknown signing key id: {text.reprOption kid}")
      | some key => decodeToken settings token key

end Verifier

end BedrockGateway
