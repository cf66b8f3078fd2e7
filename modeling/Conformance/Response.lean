import Conformance.Json.Draft
import Conformance.Text.Lowercase

/-!
# Responses

What validation sees of an answer: status, headers by lower-case name, body, and the method and path
of the request that was answered.
-/

namespace Conformance

/-- An answer to a request. -/
structure Response where
  /-- The status code. -/
  status : Nat
  /-- The headers by lower-case name. -/
  headers : KeyMap String
  /-- The body as text. -/
  body : String
  /-- The method of the request. -/
  method : String
  /-- The path of the request. -/
  path : String
  deriving DecidableEq, Repr

namespace Response

/-- An answer without headers to a request that is not known. -/
def ofBody (status : Nat) (body : String) : Response := ⟨status, .empty, body, "", ""⟩

/-- Set a header. -/
def withHeader (r : Response) (name value : String) : Response :=
  { r with headers := r.headers.put (Text.asciiLowercase name) value }

/-- Set headers one after the other. -/
def withHeaders (r : Response) (headers : List (String × String)) : Response :=
  headers.foldl (fun r h => r.withHeader h.1 h.2) r

/-- Set the method and path of the request. -/
def withRequest (r : Response) (method path : String) : Response :=
  { r with method := method, path := path }

/-- The value of a header, whatever the case of its name. -/
def header? (r : Response) (name : String) : Option String :=
  r.headers.get? (Text.asciiLowercase name)

/-- The body as a JSON value, if it is one. -/
def json? (r : Response) : Option Json := Json.parse? r.body

/-- The body for diagnostics: its JSON value, or else its text. -/
def diagnosticBody (r : Response) : Json := r.json?.getD (.string r.body)

/-- The answer as a document. -/
def toJson (r : Response) : Json :=
  .object [("status", .nat r.status), ("headers", .ofTexts r.headers), ("body", .string r.body),
    ("method", .string r.method), ("path", .string r.path)]

end Response

end Conformance
