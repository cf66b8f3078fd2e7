import Conformance.Request
import Conformance.Request.Claims
import Conformance.Text.Blank

/-!
# Preparing requests

Making a concrete request of one with templates. Every template is expanded with the values of a
context, an endpoint that is no URL is put after the base URL, parameters are appended to the query,
and claims are used as the request says.
-/

namespace Conformance

/-- Why a request cannot be prepared. -/
inductive RequestError where
  /-- A template cannot be expanded. -/
  | template (error : ExpandError)
  | emptyMethod
  | emptyEndpoint
  | invalidMethod (method : String)
  | invalidUrl (url : String) (reason : UrlError)
  /-- A header would break its line. -/
  | invalidHeader (name : String)
  /-- The key cannot sign. -/
  | unsigned (fault : KeyFault)
  | missingSigningKey
  | unknownStrategy (name : String)
  deriving DecidableEq, Repr

/-- The message of a failed preparation. -/
def RequestError.message : RequestError → String
  | .template e => e.message
  | .emptyMethod => "test case has no method"
  | .emptyEndpoint => "test case has no endpoint"
  | .invalidMethod m => "invalid HTTP method: " ++ m
  | .invalidUrl url reason => "invalid url " ++ url ++ ": " ++ reason.message
  | .invalidHeader name => "invalid header " ++ name ++ ": value contains a line break"
  | .unsigned fault =>
      "claims generation failed: signing client assertion: RSA key invalid: " ++ fault.name
  | .missingSigningKey => "no signing key available in context"
  | .unknownStrategy name => "unknown generation strategy: " ++ name

/-- How claims are used. -/
inductive ClaimStrategy where
  /-- They make the URL that takes a user to a consent. -/
  | consentUrl
  /-- They make an assertion that goes into the form. -/
  | jwtBearer
  deriving DecidableEq, Repr

/-- The strategy of a name. -/
def ClaimStrategy.ofName? : String → Option ClaimStrategy
  | "consenturl" => some .consentUrl
  | "jwt-bearer" => some .jwtBearer
  | _ => none

/-- The name that holds the URL that takes a user to a consent. -/
def Context.consentUrlName : String := "consent_url"

/-- The name that holds the assertion of a client. -/
def Context.assertionName : String := "jwtbearer"

/-- The name that holds the base URL. -/
def Context.baseUrlName : String := "baseurl"

namespace PreparedRequest

/-- The form as it is sent, if there is one. -/
def formBody? (r : PreparedRequest) : Option String :=
  if r.formData.isEmpty then none else some (Form.encode r.formData.entries)

/-- The path of the URL, or the URL itself if it is none. -/
def path [Idna] (r : PreparedRequest) : String :=
  match Url.parse r.url with
  | .ok url => url.pathText
  | .error _ => r.url

end PreparedRequest

namespace RequestTemplate

variable [Idna]

/-- The methods that a request may have. -/
def methods : List String := ["GET", "POST", "PUT", "PATCH", "DELETE", "HEAD", "OPTIONS"]

/-- A failed expansion as a failed preparation. -/
def expanding {α : Type} : Except ExpandError α → Except RequestError α
  | .ok a => .ok a
  | .error e => .error (.template e)

/-- The method in capitals. -/
def preparedMethod (r : RequestTemplate) : Except RequestError String :=
  if Text.trim r.method = "" then .error .emptyMethod
  else if Text.trim r.endpoint = "" then .error .emptyEndpoint
  else
    let method := Text.asciiUppercase (Text.trim r.method)
    if methods.contains method then .ok method else .error (.invalidMethod r.method)

/-- The URL before parameters are appended. -/
def baseUrl (r : RequestTemplate) (ctx : Context) : Except RequestError String := do
  let endpoint ← expanding (Template.expand ctx .strict r.endpoint)
  if endpoint.startsWith "http://" || endpoint.startsWith "https://" then return endpoint
  match ctx.getText Context.baseUrlName with
  | .ok base => return base ++ endpoint
  | .error e => .error (.template e.toExpandError)

/-- Append parameters to a URL. -/
def withParameters (ctx : Context) (url : String) (parameters : KeyMap String) :
    Except RequestError String :=
  if parameters.isEmpty then .ok url
  else
    match Url.parse url with
    | .error e => .error (.invalidUrl url e)
    | .ok parsed => do
        let pairs ← expanding (Template.expandMap ctx .strict parameters)
        return (parsed.appendPairs pairs.entries).render

/-- Whether a value breaks its line. -/
def breaksLine (value : String) : Bool := value.toList.any fun c => c == '\r' || c == '\n'

/-- The headers, none of which may break its line. -/
def preparedHeaders (ctx : Context) (headers : KeyMap String) :
    Except RequestError (KeyMap String) :=
  headers.mapM fun name template =>
    match Template.expand ctx .strict template with
    | .error e => .error (.template e)
    | .ok value => if breaksLine value then .error (.invalidHeader name) else .ok value

/-- Use claims for a request. -/
def applyStrategy (strategy : ClaimStrategy) (claims : KeyMap String) (ctx : Context)
    (request : PreparedRequest) : Except RequestError PreparedRequest :=
  match strategy with
  | .consentUrl =>
      match Claims.consentUrl request.url claims with
      | .error e => .error (.invalidUrl request.url e)
      | .ok url => .ok { request with
          url := url.render
          generated := request.generated.put Context.consentUrlName url.render }
  | .jwtBearer =>
      match ctx.getSigningKey Context.signingKeyName with
      | .error _ => .error .missingSigningKey
      | .ok key =>
          match Claims.assertion claims key with
          | .error fault => .error (.unsigned fault)
          | .ok a => .ok { request with
              formData := request.formData.put "client_assertion" a.render
              generated := request.generated.put Context.assertionName a.render }

/-- The request before claims are used. -/
def preparePlain (r : RequestTemplate) (ctx : Context) : Except RequestError PreparedRequest := do
  let method ← r.preparedMethod
  let url ← r.baseUrl ctx
  let url ← withParameters ctx url r.queryParameters
  let headers ← preparedHeaders ctx r.headers
  let formData ← expanding (Template.expandMap ctx .strict r.formData)
  let body ← expanding (Template.expandOption ctx .strict r.bodyData)
  return { method, url, headers, formData, body, generated := .empty }

/-- The concrete request for the values of a context. -/
def prepare (r : RequestTemplate) (ctx : Context) : Except RequestError PreparedRequest := do
  let request ← r.preparePlain ctx
  match r.generation.get? "strategy" with
  | none => return request
  | some name =>
      match ClaimStrategy.ofName? name with
      | none => throw (.unknownStrategy name)
      | some strategy =>
          let claims ← expanding (Template.expandMap ctx .strict r.claims)
          applyStrategy strategy claims ctx request

end RequestTemplate

end Conformance
