import Conformance.MatchRule

/-!
# Expectations

What a test case expects of a response: its status, rules that it must meet, whether it must fit the
schema of its operation, and the values to extract from it into the context.
-/

namespace Conformance

/-- The expected outcome of a test case. -/
structure Expect where
  /-- The expected status; zero expects nothing. -/
  statusCode : UInt16 := 0
  /-- Whether the body must fit the schema of its operation. -/
  schemaValidation : Bool := false
  /-- The rules that the response must meet. -/
  rules : List MatchRule := []
  /-- The rules that extract values into the context. -/
  extractions : List MatchRule := []
  deriving DecidableEq, Repr, Inhabited

namespace Expect

/-- Expectations as a document. -/
def toJson (e : Expect) : Json :=
  let extractions := Json.unlessNone "matches" e.extractions MatchRule.toJson
  .object ([("status-code", .nat e.statusCode.toNat),
      ("schema-validation", .bool e.schemaValidation)] ++
    Json.unlessNone "matches" e.rules MatchRule.toJson ++
    if extractions.isEmpty then [] else [("contextPut", .object extractions)])

/-- The extractions of a document: an object whose only field is their list. -/
def extractionsReader : Json.Draft.Reader (List MatchRule) :=
  Json.Draft.record [.defaulted "matches"] [] fun _ depth d _ =>
    Json.Draft.list MatchRule.reader depth d

/-- The fields of expectations in a document. -/
def fields : List Json.Draft.Field :=
  [.defaulted "status-code", .defaulted "schema-validation", .defaulted "matches",
    .defaulted "contextPut"]

/-- Take in one field. -/
def setField : Json.Draft.Setter Expect := fun name depth d e =>
  match name with
  | "status-code" => return { e with statusCode := ← d.uint16 depth }
  | "schema-validation" => return { e with schemaValidation := ← d.flag depth }
  | "matches" => return { e with rules := ← Json.Draft.list MatchRule.reader depth d }
  | _ => return { e with extractions := ← extractionsReader depth d }

/-- Expectations of a document. -/
def reader : Json.Draft.Reader Expect := Json.Draft.record fields {} setField

end Expect

end Conformance
