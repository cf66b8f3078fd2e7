import Conformance.Http
import Conformance.Redaction
import Conformance.Settings
import Conformance.Trial

/-!
# HTTP clients

Sending prepared requests over a network. What is sent is logged with everything masked that could
be secret.
-/

namespace Conformance

/-- What sends prepared requests. -/
structure HttpClient where
  /-- Whether redirects are followed. -/
  followRedirects : Bool := false
  /-- The fragments of names to mask in logs. -/
  fragments : List String := Redaction.defaultFragments
  deriving DecidableEq, Repr, Inhabited

/-- Something that a client logs. -/
inductive ClientNote where
  /-- A request goes out. -/
  | sending (method url : String) (headers : KeyMap String)
  /-- It has a form. -/
  | form (body : String)
  deriving DecidableEq, Repr

namespace HttpClient

/-- The client that settings describe. -/
def ofSettings (s : RunSettings) : HttpClient :=
  { followRedirects := s.followRedirects, fragments := s.logging.fragments }

/-- The client with the default masks. -/
def withDefaultMasks (c : HttpClient) : HttpClient :=
  { c with fragments := Redaction.defaultFragments }

/-- The content type of a form. -/
def formType : String := "application/x-www-form-urlencoded"

/-- Whether a header is set, whatever the case of its name. -/
def hasHeader (headers : KeyMap String) (name : String) : Bool :=
  headers.keys.any fun k => Text.equalIgnoringCase k name

/-- The URL of a request, unless its method or URL cannot be sent. -/
def target [Idna] (request : PreparedRequest) : Except ExecutionError Url :=
  if !Http.isToken request.method then
    .error (.invalidRequest ("method " ++ request.method ++ ": invalid HTTP method"))
  else
    match Url.parse request.url with
    | .error e => .error (.invalidRequest ("url " ++ request.url ++ ": " ++ e.message))
    | .ok url => .ok url

/-- The request as it goes out, unless a header cannot be sent. -/
def outgoing? (request : PreparedRequest) (url : Url) : Option HttpRequest := do
  let form := request.formBody?
  let typed := if form.isSome && !hasHeader request.headers "content-type" then
    [("content-type", formType)] else []
  let headers ← Http.headers? (request.headers.entries ++ typed)
  let accepting := if headers.any (·.1 == "accept") then [] else [("accept", "*/*")]
  return { method := request.method, url, headers := headers ++ accepting,
           body := form.or request.body }

/-- The notes on a request. -/
def notes [Idna] (c : HttpClient) (request : PreparedRequest) : List ClientNote :=
  match target request with
  | .error _ => []
  | .ok _ =>
      .sending request.method (Redaction.loggableUrl c.fragments request.url)
          (Redaction.redactHeaders c.fragments request.headers) ::
        match request.formBody? with
        | none => []
        | some form => [.form (Redaction.redactQuery c.fragments form)]

/-- The response that a reply makes for a request. Of received headers only those with a visible
value count, and the last one of a name. -/
def response (request : PreparedRequest) (url : Url) (reply : HttpReply) : Response :=
  ((Response.ofBody reply.status (Http.bodyText reply)).withRequest request.method
    url.pathText).withHeaders
      (reply.headers.filterMap fun h => (Http.visible? h.2).map fun v => (h.1, v))

/-- Send a request and receive its reply. -/
def execute [Idna] {σ : Type} (c : HttpClient) (network : Network σ) (request : PreparedRequest)
    (s : σ) : Answer × σ :=
  match target request with
  | .error e => (.error e, s)
  | .ok url =>
      match outgoing? request url with
      | none => (.error .broken, s)
      | some outgoing =>
          match Http.carry network c.followRedirects outgoing s with
          | (none, s) => (.error .broken, s)
          | (some reply, s) =>
              let response := response request url reply
              (.ok ⟨response, { nanos := reply.nanos, size := response.body.utf8ByteSize }⟩, s)

end HttpClient

end Conformance
