import Conformance.Component
import Conformance.Settings

/-!
# Consent providers

The components that obtain a consent for one token, one for each way of acquisition. Both ask for a
client token and create a consent. Then one makes the URL at which a person authorises the consent;
the other follows that URL itself and exchanges the code that it is redirected with.
-/

namespace Conformance.Component.Providers

/-! ## Rules -/

/-- Keep the text at a path under a name. -/
def keepPath (name path : String) : MatchRule := { contextName := name, json := path }

/-- The pattern of a code in a redirect. -/
def codePattern : String := "code=([^&#]+)"

/-! ## Test cases -/

/-- Ask for a client token with an assertion of the client. -/
def clientGrant (id : String) : TestCase where
  id := id
  name := "ClientCredential Grant"
  purpose := "Obtain a client credentials token for consent creation"
  input := {
    method := "POST"
    endpoint := "$token_endpoint"
    formData := .ofList [
      ("grant_type", "client_credentials"),
      ("scope", "accounts openid"),
      ("client_assertion_type", "urn:ietf:params:oauth:client-assertion-type:jwt-bearer")]
    generation := .ofList [("strategy", "jwt-bearer")]
    claims := .ofList [("iss", "$client_id"), ("sub", "$client_id"), ("aud", "$token_endpoint")] }
  expect := {
    statusCode := 200
    rules := [{ description := "access token returned", json := "access_token" }]
    extractions := [keepPath "client_access_token" "access_token"] }

/-- Create a consent with the permissions of the token, keeping its identifier under names. -/
def consentCreation (id : String) (names : List String) : TestCase where
  id := id
  name := "Account Access Consents"
  purpose := "Create a consent carrying the token's permissions"
  input := {
    method := "POST"
    endpoint := "/open-banking/v3.1/aisp/account-access-consents"
    headers := .ofList [
      ("Authorization", "Bearer $client_access_token"),
      ("x-fapi-financial-id", "$x-fapi-financial-id"),
      ("Content-Type", "application/json"),
      ("Accept", "application/json")]
    bodyData := some ("\x7b\"Data\":\x7b\"Permissions\":[$permission_list]," ++
      "\"TransactionFromDateTime\":\"2016-01-01T10:40:00+02:00\"," ++
      "\"TransactionToDateTime\":\"2025-12-31T10:40:00+02:00\"\x7d,\"Risk\":\x7b\x7d\x7d") }
  expect := {
    statusCode := 201
    extractions := names.map fun name => keepPath name "Data.ConsentId" }

/-- Make the URL at which the consent is authorised. -/
def authorisation (id name purpose : String) (expect : Expect) : TestCase where
  id := id
  name := name
  purpose := purpose
  input := {
    method := "GET"
    endpoint := "$authorisation_endpoint"
    generation := .ofList [("strategy", "consenturl")]
    claims := .ofList [
      ("aud", "$authorisation_endpoint"),
      ("iss", "$client_id"),
      ("scope", "openid accounts"),
      ("redirect_url", "$redirect_url"),
      ("consentId", "$intent_id"),
      ("responseType", "code id_token"),
      ("state", "$token_name")] }
  expect := expect

/-- Exchange the code of a redirect for the token. -/
def codeExchange (id : String) : TestCase where
  id := id
  name := "Exchange Code for Access Token"
  purpose := "Swap the authorisation code for the token's access token"
  input := {
    method := "POST"
    endpoint := "$token_endpoint"
    headers := .ofList [("Authorization", "Basic $basic_authentication")]
    formData := .ofList [
      ("grant_type", "authorization_code"),
      ("code", "$authorization_code"),
      ("redirect_uri", "$redirect_url")] }
  expect := {
    statusCode := 200
    extractions := [keepPath "$consent_id" "access_token"] }

/-! ## Components -/

/-- The names that both components read. -/
def sharedInputs : List (String × String) :=
  [("baseurl", "resource server base URL"),
    ("client_id", "software client id, also the assertion issuer"),
    ("token_endpoint", "ASPSP token endpoint"),
    ("authorisation_endpoint", "ASPSP authorisation endpoint"),
    ("redirect_url", "registered redirect URL"),
    ("x-fapi-financial-id", "ASPSP financial id"),
    ("signing_key", "client assertion signing key"),
    ("token_name", "token being acquired"),
    ("permission_list", "quoted, comma separated permission codes")]

/-- The component whose consents a person authorises. -/
def interactive : Component where
  name := "PSUConsentProviderComponent"
  description :=
    "Creates an account access consent and the PSU authorisation URL for one token"
  inputs := .ofList (("consent_id", "name the consent id is stored under") :: sharedInputs)
  outputs := .ofList [
    ("client_access_token", "client credentials access token"),
    ("consent_url", "PSU authorisation URL")]
  tests := [
    clientGrant "#compPsuConsent01",
    consentCreation "#compPsuConsent02" ["$consent_id", "intent_id"],
    authorisation "#compPsuConsent03" "PSU Consent Url"
      "Build the authorisation URL the PSU visits to approve the consent" {}]

/-- The component whose consents the bank approves on its own. -/
def headless : Component where
  name := "headlessTokenProviderComponent"
  description := "Creates an account access consent, follows an auto-approving authorisation, " ++
    "and exchanges the code for an access token"
  inputs := .ofList (("consent_id", "name the access token is stored under") ::
    ("basic_authentication", "base64 client_id:client_secret") :: sharedInputs)
  outputs := .ofList [
    ("client_access_token", "client credentials access token"),
    ("consent_url", "authorisation URL that was followed")]
  tests := [
    clientGrant "#compHeadless01",
    consentCreation "#compHeadless02" ["intent_id"],
    authorisation "#compHeadless03" "Headless Authorisation"
      "Follow the authorisation URL and capture the code from the redirect" {
        statusCode := 302
        rules := [{ description := "redirect carries a code", header := "Location",
                    regex := codePattern }]
        extractions := [{ contextName := "authorization_code", header := "Location",
                          regex := codePattern }] },
    codeExchange "#compHeadless04"]

end Conformance.Component.Providers

namespace Conformance

/-- The component that obtains consents in a way of acquisition. -/
def Acquisition.component : Acquisition → Component
  | .psu => Component.Providers.interactive
  | .headless => Component.Providers.headless

end Conformance
