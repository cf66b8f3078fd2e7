import Conformance.Json.Render
import Conformance.SigningKey
import Conformance.Text.Base64
import Conformance.Url

/-!
# Claims

What is made of a map of claims: the unsigned request object that asks for a consent, the URL that
takes a user to it, and the assertion with which a client identifies itself.
-/

namespace Conformance

namespace Claims

/-- The text of a claim; one that is not there is empty. -/
def claim (claims : KeyMap String) (name : String) : String := (claims.get? name).getD ""

/-! ## Request objects -/

/-- The header of an unsigned object. -/
def unsignedHeader : Json := .object [("alg", .string "none")]

/-- What a request object asks for. -/
def requestPayload (claims : KeyMap String) : Json :=
  .object [("aud", .string (claim claims "aud")),
    ("claims", .object [("id_token", .object [("openbanking_intent_id",
      .object [("essential", .bool true), ("value", .string (claim claims "consentId"))])])]),
    ("iss", .string (claim claims "iss")),
    ("redirect_uri", .string (claim claims "redirect_url")),
    ("scope", .string (claim claims "scope"))]

/-- The unsigned request object of claims: header and payload, and an empty signature. -/
def requestObject (claims : KeyMap String) : String :=
  Text.Base64.ofText unsignedHeader.render ++ "." ++
    Text.Base64.ofText (requestPayload claims).render ++ "."

/-! ## Consent URLs -/

/-- The state that is sent when the claims have none. -/
def defaultState : String := "5a6b0d7832a9fb4f80f1170a"

/-- The state that is sent. -/
def stateOf (claims : KeyMap String) : String :=
  let s := claim claims "state"
  if s.isEmpty then defaultState else s

/-- The parameters that ask for a consent, in order. -/
def consentParameters (claims : KeyMap String) : List (String × String) :=
  [("client_id", claim claims "iss"), ("response_type", claim claims "responseType"),
    ("scope", claim claims "scope"), ("redirect_uri", claim claims "redirect_url"),
    ("state", stateOf claims), ("request", requestObject claims)]

/-- The URL that takes a user to a consent. -/
def consentUrl [Idna] (endpoint : String) (claims : KeyMap String) : Except UrlError Url :=
  match Url.parse endpoint with
  | .error e => .error e
  | .ok url => .ok (url.appendPairs (consentParameters claims))

/-! ## Assertions -/

/-- The number of seconds for which an assertion is valid. -/
def assertionLifetime : Nat := 600

/-- A signed assertion, without what differs from one signing to the next. -/
structure Assertion where
  /-- The header. -/
  header : Json
  /-- The claims, without the identifier and the times of the assertion. -/
  claims : Json
  /-- The number of seconds for which it is valid. -/
  lifetime : Nat

/-- The text that stands for an assertion: header, claims and lifetime. -/
def Assertion.render (a : Assertion) : String :=
  Text.Base64.ofText a.header.render ++ "." ++ Text.Base64.ofText a.claims.render ++ "." ++
    Text.decimal a.lifetime

/-- The header of an assertion, with the identifier of the key if it has one. -/
def assertionHeader (key : SigningKey) : Json :=
  .object ([("typ", .string "JWT"), ("alg", .string "RS256")] ++
    Json.whenSome "kid" key.keyId .string)

/-- The claims of an assertion; its subject is its issuer unless another one is named. -/
def assertionClaims (claims : KeyMap String) : Json :=
  .object ([("iss", .string (claim claims "iss")),
    ("sub", .string ((claims.get? "sub").getD (claim claims "iss"))),
    ("aud", .string (claim claims "aud"))] ++ Json.unlessBlank "scope" (claim claims "scope"))

/-- The assertion of a client, unless the key cannot sign. -/
def assertion (claims : KeyMap String) (key : SigningKey) : Except KeyFault Assertion :=
  match key.fault with
  | some fault => .error fault
  | none => .ok ⟨assertionHeader key, assertionClaims claims, assertionLifetime⟩

end Claims

end Conformance
