import Conformance.SpecType
import Conformance.Suite
import Conformance.Text.Quoted

/-!
# Token requirements

Which permissions a test case needs its token to have and not to have, and the token that a group of
test cases shares.
-/

namespace Conformance

/-- The message of a permission error. -/
def PermissionError.message : PermissionError → String
  | .selfConflict testId conflicting =>
      "test case " ++ testId ++ " requires and excludes " ++ Text.quotedList conflicting
  | .unknownSpecification name => "unknown specification: `" ++ name ++ "`"

/-- The permissions that one test case declares. -/
structure PermissionNeed where
  /-- The identifier of the test case. -/
  id : String
  /-- The codes that its token must have. -/
  required : List String := []
  /-- The codes that its token must not have. -/
  excluded : List String := []
  deriving DecidableEq, Repr, Inhabited

/-- A token that a group of test cases shares and, once acquired, its consent. -/
structure TokenRequirement where
  /-- The name of the token. -/
  name : String
  /-- The acquired token. -/
  token : String := ""
  /-- The identifiers of the test cases. -/
  ids : List String := []
  /-- The codes that it must have. -/
  required : List String := []
  /-- The codes that it must not have. -/
  excluded : List String := []
  /-- The acquired access token. -/
  accessToken : String := ""
  /-- The URL at which the consent is authorised. -/
  consentUrl : String := ""
  /-- The identifier of the consent. -/
  consentId : String := ""
  /-- The context name that holds the identifier of a payment consent. -/
  consentParam : String := ""
  deriving DecidableEq, Repr, Inhabited

/-- The tokens that one specification of a suite needs. -/
structure SpecTokens where
  /-- The name of the specification. -/
  identifier : String
  /-- Its family. -/
  specType : SpecType
  /-- Its tokens. -/
  tokens : List TokenRequirement
  deriving DecidableEq, Repr, Inhabited

namespace PermissionNeed

/-- Whether no code is declared. -/
def isUnrestricted (n : PermissionNeed) : Bool := n.required.isEmpty && n.excluded.isEmpty

/-- The codes that are required and excluded both, in the order of the required ones. -/
def conflicts (n : PermissionNeed) : List String := n.required.filter n.excluded.contains

/-- A need as a document. -/
def toJson (n : PermissionNeed) : Json :=
  .object ([("id", .string n.id)] ++ Json.unlessNone "perms" n.required .string ++
    Json.unlessNone "permsx" n.excluded .string)

/-- A need of a document. -/
def reader : Json.Draft.Reader PermissionNeed :=
  Json.Draft.record [.required "id", .defaulted "perms", .defaulted "permsx"] { id := "" }
    fun name depth d n =>
      match name with
      | "id" => return { n with id := ← d.text depth }
      | "perms" => return { n with required := ← Json.Draft.list Json.Draft.text depth d }
      | _ => return { n with excluded := ← Json.Draft.list Json.Draft.text depth d }

end PermissionNeed

namespace TokenRequirement

/-- Whether the token needs no codes and excludes none. -/
def isUnrestricted (t : TokenRequirement) : Bool := t.required.isEmpty && t.excluded.isEmpty

/-- A token as a document, without the fields that are empty. -/
def toJson (t : TokenRequirement) : Json :=
  .object ([("name", .string t.name)] ++ Json.unlessBlank "token" t.token ++
    Json.unlessNone "ids" t.ids .string ++ Json.unlessNone "perms" t.required .string ++
    Json.unlessNone "permsx" t.excluded .string ++ Json.unlessBlank "accessToken" t.accessToken ++
    Json.unlessBlank "consentUrl" t.consentUrl ++ Json.unlessBlank "consentId" t.consentId ++
    Json.unlessBlank "consentParam" t.consentParam)

/-- The fields of a token in a document. -/
def fields : List Json.Draft.Field :=
  [.required "name", .defaulted "token", .defaulted "ids", .defaulted "perms", .defaulted "permsx",
    .defaulted "accessToken", .defaulted "consentUrl", .defaulted "consentId",
    .defaulted "consentParam"]

/-- Take in one field. -/
def setField : Json.Draft.Setter TokenRequirement := fun name depth d t =>
  match name with
  | "name" => return { t with name := ← d.text depth }
  | "token" => return { t with token := ← d.text depth }
  | "ids" => return { t with ids := ← Json.Draft.list Json.Draft.text depth d }
  | "perms" => return { t with required := ← Json.Draft.list Json.Draft.text depth d }
  | "permsx" => return { t with excluded := ← Json.Draft.list Json.Draft.text depth d }
  | "accessToken" => return { t with accessToken := ← d.text depth }
  | "consentUrl" => return { t with consentUrl := ← d.text depth }
  | "consentId" => return { t with consentId := ← d.text depth }
  | _ => return { t with consentParam := ← d.text depth }

/-- A token of a document. -/
def reader : Json.Draft.Reader TokenRequirement :=
  Json.Draft.record fields { name := "" } setField

/-- The permissions and test cases of a token by its name. -/
def named (t : TokenRequirement) : NamedPermission :=
  { name := t.name, testIds := t.ids, permissions := t.required, permissionsExcluded := t.excluded }

end TokenRequirement

namespace SpecTokens

/-- The tokens of a specification as the requirements that a suite carries. -/
def consentRequirements (s : SpecTokens) : ConsentRequirements :=
  { identifier := s.identifier, namedPermissions := s.tokens.map TokenRequirement.named }

/-- The tokens of a specification as a document. -/
def toJson (s : SpecTokens) : Json :=
  .object [("identifier", .string s.identifier), ("spec_type", .string s.specType.name),
    ("tokens", .array (s.tokens.map TokenRequirement.toJson))]

/-- The fields of the tokens of a specification in a document. -/
def fields : List Json.Draft.Field :=
  [.required "identifier", .required "spec_type", .required "tokens"]

/-- Take in one field. -/
def setField : Json.Draft.Setter SpecTokens := fun name depth d s =>
  match name with
  | "identifier" => return { s with identifier := ← d.text depth }
  | "spec_type" => return { s with specType := ← SpecType.reader depth d }
  | _ => return { s with tokens := ← Json.Draft.list TokenRequirement.reader depth d }

/-- The tokens of a specification of a document. -/
def reader : Json.Draft.Reader SpecTokens :=
  Json.Draft.record fields { identifier := "", specType := .accounts, tokens := [] } setField

end SpecTokens

/-- Permission codes as they stand in the body of a consent request: each in quotation marks, with
commas between them. -/
def permissionList (codes : List String) : String :=
  Text.join "," (codes.map fun c => "\"" ++ c ++ "\"")

end Conformance
