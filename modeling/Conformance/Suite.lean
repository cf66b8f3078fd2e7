import Conformance.TestCase

/-!
# Suites

What one run executes: test cases grouped by the specification that they exercise, and the consents
that were asked for each specification.
-/

namespace Conformance

/-- A specification that test cases exercise. -/
structure ApiSpecification where
  /-- The published name. -/
  name : String
  /-- Where it is published. -/
  url : String := ""
  /-- Its version. -/
  version : String := ""
  /-- The version of its schema. -/
  schemaVersion : String := ""
  deriving DecidableEq, Repr, Inhabited

/-- The test cases of one specification, in the order of execution. -/
structure SpecificationCases where
  /-- The specification. -/
  specification : ApiSpecification
  /-- Its test cases. -/
  testCases : List TestCase := []
  deriving DecidableEq, Repr, Inhabited

/-- A named token with the permissions and test cases that it covers. -/
structure NamedPermission where
  /-- The name of the token. -/
  name : String
  /-- The identifiers of the test cases. -/
  testIds : List String := []
  /-- The permission codes that it must have. -/
  permissions : List String := []
  /-- The permission codes that it must not have. -/
  permissionsExcluded : List String := []
  deriving DecidableEq, Repr, Inhabited

/-- The tokens that one specification needs. -/
structure ConsentRequirements where
  /-- The name of the specification. -/
  identifier : String
  /-- Its tokens. -/
  namedPermissions : List NamedPermission := []
  deriving DecidableEq, Repr, Inhabited

/-- Everything that one run executes. -/
structure Suite where
  /-- The test cases by specification. -/
  specifications : List SpecificationCases := []
  /-- The tokens by specification. -/
  consentRequirements : List ConsentRequirements := []
  deriving DecidableEq, Repr, Inhabited

namespace Suite

/-- All test cases, in the order of execution. -/
def testCases (s : Suite) : List TestCase := s.specifications.flatMap (·.testCases)

/-- The number of test cases. -/
def size (s : Suite) : Nat := (s.specifications.flatMap (·.testCases)).length

/-- Whether there is no test case. -/
def isEmpty (s : Suite) : Bool := s.size == 0

end Suite

/-! ## As documents -/

namespace ApiSpecification

/-- A specification as a document. -/
def toJson (a : ApiSpecification) : Json :=
  .object [("name", .string a.name), ("url", .string a.url), ("version", .string a.version),
    ("schemaVersion", .string a.schemaVersion)]

/-- The fields of a specification in a document. -/
def fields : List Json.Draft.Field :=
  [.required "name", .defaulted "url", .defaulted "version", .defaulted "schemaVersion"]

/-- Take in one field. -/
def setField : Json.Draft.Setter ApiSpecification := fun name depth d a =>
  match name with
  | "name" => return { a with name := ← d.text depth }
  | "url" => return { a with url := ← d.text depth }
  | "version" => return { a with version := ← d.text depth }
  | _ => return { a with schemaVersion := ← d.text depth }

/-- A specification of a document. -/
def reader : Json.Draft.Reader ApiSpecification :=
  Json.Draft.record fields { name := "" } setField

end ApiSpecification

namespace SpecificationCases

/-- The test cases of a specification as a document. -/
def toJson (s : SpecificationCases) : Json :=
  .object [("apiSpecification", s.specification.toJson),
    ("testCases", .array (s.testCases.map TestCase.toJson))]

/-- The fields of the test cases of a specification in a document. -/
def fields : List Json.Draft.Field := [.required "apiSpecification", .defaulted "testCases"]

/-- Take in one field. -/
def setField : Json.Draft.Setter SpecificationCases := fun name depth d s =>
  match name with
  | "apiSpecification" => return { s with specification := ← ApiSpecification.reader depth d }
  | _ => return { s with testCases := ← Json.Draft.list TestCase.reader depth d }

/-- The test cases of a specification of a document. -/
def reader : Json.Draft.Reader SpecificationCases :=
  Json.Draft.record fields { specification := { name := "" } } setField

end SpecificationCases

namespace NamedPermission

/-- A named token as a document. -/
def toJson (p : NamedPermission) : Json :=
  .object ([("name", .string p.name), ("testIds", .strings p.testIds),
    ("permissions", .strings p.permissions)] ++
    Json.unlessNone "permissionsExcluded" p.permissionsExcluded .string)

/-- The fields of a named token in a document. -/
def fields : List Json.Draft.Field :=
  [.required "name", .defaulted "testIds", .defaulted "permissions",
    .defaulted "permissionsExcluded"]

/-- Take in one field. -/
def setField : Json.Draft.Setter NamedPermission := fun name depth d p =>
  match name with
  | "name" => return { p with name := ← d.text depth }
  | "testIds" => return { p with testIds := ← Json.Draft.list Json.Draft.text depth d }
  | "permissions" => return { p with permissions := ← Json.Draft.list Json.Draft.text depth d }
  | _ => return { p with permissionsExcluded := ← Json.Draft.list Json.Draft.text depth d }

/-- A named token of a document. -/
def reader : Json.Draft.Reader NamedPermission :=
  Json.Draft.record fields { name := "" } setField

end NamedPermission

namespace ConsentRequirements

/-- The tokens of a specification as a document. -/
def toJson (c : ConsentRequirements) : Json :=
  .object [("identifier", .string c.identifier),
    ("namedPermissions", .array (c.namedPermissions.map NamedPermission.toJson))]

/-- The fields of the tokens of a specification in a document. -/
def fields : List Json.Draft.Field := [.required "identifier", .defaulted "namedPermissions"]

/-- Take in one field. -/
def setField : Json.Draft.Setter ConsentRequirements := fun name depth d c =>
  match name with
  | "identifier" => return { c with identifier := ← d.text depth }
  | _ => return { c with namedPermissions := ← Json.Draft.list NamedPermission.reader depth d }

/-- The tokens of a specification of a document. -/
def reader : Json.Draft.Reader ConsentRequirements :=
  Json.Draft.record fields { identifier := "" } setField

end ConsentRequirements

namespace Suite

/-- A suite as a document. -/
def toJson (s : Suite) : Json :=
  .object [("specCases", .array (s.specifications.map SpecificationCases.toJson)),
    ("specTokens", .array (s.consentRequirements.map ConsentRequirements.toJson))]

/-- The fields of a suite in a document. -/
def fields : List Json.Draft.Field := [.defaulted "specCases", .defaulted "specTokens"]

/-- Take in one field. -/
def setField : Json.Draft.Setter Suite := fun name depth d s =>
  match name with
  | "specCases" =>
      return { s with specifications := ← Json.Draft.list SpecificationCases.reader depth d }
  | _ => return { s with
      consentRequirements := ← Json.Draft.list ConsentRequirements.reader depth d }

/-- A suite of a document. -/
def reader : Json.Draft.Reader Suite := Json.Draft.record fields {} setField

end Suite

end Conformance
