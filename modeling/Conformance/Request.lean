import Conformance.Json.Draft
import Conformance.Template

/-!
# Requests

A request as a test case describes it, with templates in its fields, and a concrete request as it
goes out.
-/

namespace Conformance

/-- A request with templates in its fields. -/
structure RequestTemplate where
  /-- The method. -/
  method : String
  /-- A URL, or the part of it that follows the base URL. -/
  endpoint : String
  /-- The headers. -/
  headers : KeyMap String := .empty
  /-- The parameters that are appended to the URL. -/
  queryParameters : KeyMap String := .empty
  /-- The pairs of a form body. -/
  formData : KeyMap String := .empty
  /-- The body of a request without a form. -/
  bodyData : Option String := none
  /-- How claims are used: its `strategy` names one. -/
  generation : KeyMap String := .empty
  /-- The claims. -/
  claims : KeyMap String := .empty
  deriving DecidableEq, Repr, Inhabited

/-- A concrete request. -/
structure PreparedRequest where
  /-- The method in capitals. -/
  method : String
  /-- The URL. -/
  url : String
  /-- The headers. -/
  headers : KeyMap String
  /-- The pairs of a form body. -/
  formData : KeyMap String
  /-- The body of a request without a form. -/
  body : Option String
  /-- The values that preparing the request has made, for the context. -/
  generated : KeyMap String
  deriving DecidableEq, Repr, Inhabited

namespace RequestTemplate

/-- Expand every template of a request; the method of generation stays. -/
def expand (ctx : Context) (mode : Expansion) (r : RequestTemplate) :
    Except ExpandError RequestTemplate := do
  return {
    method := ← Template.expand ctx mode r.method
    endpoint := ← Template.expand ctx mode r.endpoint
    headers := ← Template.expandMap ctx mode r.headers
    queryParameters := ← Template.expandMap ctx mode r.queryParameters
    formData := ← Template.expandMap ctx mode r.formData
    bodyData := ← Template.expandOption ctx mode r.bodyData
    generation := r.generation
    claims := ← Template.expandMap ctx mode r.claims }

/-! ## As documents -/

/-- A request as a document, without the fields that are empty. -/
def toJson (r : RequestTemplate) : Json :=
  .object ([("method", .string r.method), ("endpoint", .string r.endpoint)] ++
    Json.unlessEmpty "headers" r.headers ++ Json.unlessEmpty "queryParameters" r.queryParameters ++
    Json.unlessEmpty "formData" r.formData ++ Json.whenSome "bodyData" r.bodyData .string ++
    Json.unlessEmpty "generation" r.generation ++ Json.unlessEmpty "claims" r.claims)

/-- The fields of a request in a document. -/
def fields : List Json.Draft.Field :=
  [.required "method", .required "endpoint", .defaulted "headers", .defaulted "queryParameters",
    .defaulted "formData", .defaulted "bodyData", .defaulted "generation", .defaulted "claims"]

/-- Take in one field. -/
def setField : Json.Draft.Setter RequestTemplate := fun name depth d r =>
  match name with
  | "method" => return { r with method := ← d.text depth }
  | "endpoint" => return { r with endpoint := ← d.text depth }
  | "headers" => return { r with headers := ← Json.Draft.keyMap Json.Draft.text depth d }
  | "queryParameters" =>
      return { r with queryParameters := ← Json.Draft.keyMap Json.Draft.text depth d }
  | "formData" => return { r with formData := ← Json.Draft.keyMap Json.Draft.text depth d }
  | "bodyData" => return { r with bodyData := ← Json.Draft.nullable Json.Draft.text depth d }
  | "generation" => return { r with generation := ← Json.Draft.keyMap Json.Draft.text depth d }
  | _ => return { r with claims := ← Json.Draft.keyMap Json.Draft.text depth d }

/-- A request of a document. -/
def reader : Json.Draft.Reader RequestTemplate :=
  Json.Draft.record fields { method := "", endpoint := "" } setField

end RequestTemplate

/-- A concrete request as a document. -/
def PreparedRequest.toJson (r : PreparedRequest) : Json :=
  .object [("method", .string r.method), ("url", .string r.url), ("headers", .ofTexts r.headers),
    ("form_data", .ofTexts r.formData), ("body", .ofOption .string r.body)]

end Conformance
