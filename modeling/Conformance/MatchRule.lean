import Conformance.Json.Draft
import Conformance.Text.Lowercase

/-!
# Match rules

One check of a response. Which check a rule performs follows from the fields that it fills. The same
rule extracts a value into the context, where its name says under which name.
-/

namespace Conformance

/-- What a rule checks. -/
inductive MatchKind where
  | headerValue
  | headerRegex
  | headerPresent
  | jsonValue
  | jsonRegex
  | jsonPresent
  | bodyRegex
  | bodyLength
  | authorisation
  | unknown
  deriving DecidableEq, Repr

/-- How a rule without a description is called in messages. -/
def MatchKind.label : MatchKind → String
  | .headerValue => "Match:HeaderValue"
  | .headerRegex => "Match:HeaderRegex"
  | .headerPresent => "Match:HeaderPresent"
  | .jsonValue => "Match:JSONValue"
  | .jsonRegex => "Match:JSONRegex"
  | .jsonPresent => "Match:JSONPresent"
  | .bodyRegex => "Match:BodyRegex"
  | .bodyLength => "Match:BodyLength"
  | .authorisation => "Match:Authorisation"
  | .unknown => "Match:Unknown"

/-- One check of a response; a field that is not filled is empty. -/
structure MatchRule where
  /-- How messages call the rule. -/
  description : String := ""
  /-- The name under which an extracted value is kept. -/
  contextName : String := ""
  /-- The header whose value is looked at. -/
  header : String := ""
  /-- The header that must be there. -/
  headerPresent : String := ""
  /-- The pattern that the value must match. -/
  regex : String := ""
  /-- The path of the JSON value that is looked at. -/
  json : String := ""
  /-- The value that is expected, as a template. -/
  value : String := ""
  /-- The size in bytes that the body must have. -/
  bodyLength : Option UInt64 := none
  /-- `bearer` for the token of the `Authorization` header. -/
  authorisation : String := ""
  deriving DecidableEq, Repr, Inhabited

namespace MatchRule

/-- The check that the filled fields ask for; the first in the order of `MatchKind` that they
allow. -/
def kind (r : MatchRule) : MatchKind :=
  if r.header ≠ "" ∧ r.value ≠ "" then .headerValue
  else if r.header ≠ "" ∧ r.regex ≠ "" then .headerRegex
  else if r.headerPresent ≠ "" then .headerPresent
  else if r.json ≠ "" ∧ r.value ≠ "" then .jsonValue
  else if r.json ≠ "" ∧ r.regex ≠ "" then .jsonRegex
  else if r.json ≠ "" then .jsonPresent
  else if r.regex ≠ "" then .bodyRegex
  else if r.bodyLength.isSome then .bodyLength
  else if Text.equalIgnoringCase r.authorisation "bearer" then .authorisation
  else .unknown

/-- How messages call the rule. -/
def describe (r : MatchRule) : String :=
  if r.description = "" then r.kind.label else r.description

/-! ## As documents -/

/-- A rule as a document, without the fields that are not filled. -/
def toJson (r : MatchRule) : Json :=
  .object (Json.unlessBlank "description" r.description ++ Json.unlessBlank "name" r.contextName ++
    Json.unlessBlank "header" r.header ++ Json.unlessBlank "header-present" r.headerPresent ++
    Json.unlessBlank "regex" r.regex ++ Json.unlessBlank "json" r.json ++
    Json.unlessBlank "value" r.value ++ Json.whenSome "body-length" r.bodyLength (.nat ·.toNat) ++
    Json.unlessBlank "authorisation" r.authorisation)

/-- The fields of a rule in a document. -/
def fields : List Json.Draft.Field :=
  [.defaulted "description", .defaulted "name", .defaulted "header", .defaulted "header-present",
    .defaulted "regex", .defaulted "json", .defaulted "value", .defaulted "body-length",
    .defaulted "authorisation"]

/-- Take in one field. -/
def setField : Json.Draft.Setter MatchRule := fun name depth d r =>
  match name with
  | "description" => return { r with description := ← d.text depth }
  | "name" => return { r with contextName := ← d.text depth }
  | "header" => return { r with header := ← d.text depth }
  | "header-present" => return { r with headerPresent := ← d.text depth }
  | "regex" => return { r with regex := ← d.text depth }
  | "json" => return { r with json := ← d.text depth }
  | "value" => return { r with value := ← d.text depth }
  | "body-length" =>
      return { r with bodyLength := ← Json.Draft.nullable Json.Draft.uint64 depth d }
  | _ => return { r with authorisation := ← d.text depth }

/-- A rule of a document. -/
def reader : Json.Draft.Reader MatchRule := Json.Draft.record fields {} setField

end MatchRule

end Conformance
