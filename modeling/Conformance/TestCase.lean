import Conformance.Expect
import Conformance.Request

/-!
# Test cases

A test case: the request to send, what to expect of the response, and a context of its own that the
templates of the request may use.
-/

namespace Conformance

/-- A test case. -/
structure TestCase where
  /-- The identifier. -/
  id : String
  /-- The name. -/
  name : String := ""
  /-- What it is for. -/
  purpose : String := ""
  /-- A longer description. -/
  detail : String := ""
  /-- Where the tested rule is stated. -/
  refUri : String := ""
  /-- The tested interface. -/
  apiName : String := ""
  /-- Its version. -/
  apiVersion : String := ""
  /-- The request. -/
  input : RequestTemplate
  /-- The test's own values. -/
  context : Context := .empty
  /-- The expected outcome. -/
  expect : Expect := {}
  deriving DecidableEq, Repr, Inhabited

namespace TestCase

/-! ## Permissions -/

/-- The name of a test's required permission codes. -/
def permissionsName : String := "permissions"

/-- The name of a test's excluded permission codes. -/
def excludedName : String := "permissions-excluded"

/-- The required permission codes: the list that the test's own context holds under their name. -/
def permissions (t : TestCase) : List String :=
  match t.context.getTexts permissionsName with
  | .ok items => items
  | .error _ => []

/-- The excluded permission codes: the list that the test's own context holds under their name. -/
def permissionsExcluded (t : TestCase) : List String :=
  match t.context.getTexts excludedName with
  | .ok items => items
  | .error _ => []

/-! ## Expansion -/

/-- Expand the texts of a context; other values stay. -/
def expandValue (ctx : Context) (mode : Expansion) :
    Context.Value → Except ExpandError Context.Value
  | .text s => (Template.expand ctx mode s).map .text
  | .texts items => .ok (.texts items)
  | .handle h => .ok (.handle h)

/-- Expand the expected value and the name of a rule. -/
def expandRule (ctx : Context) (mode : Expansion) (r : MatchRule) :
    Except ExpandError MatchRule := do
  let value ← Template.expand ctx mode r.value
  let name ← Template.expand ctx mode r.contextName
  return { r with value := value, contextName := name }

/-- Expand rules in order. -/
def expandRules (ctx : Context) (mode : Expansion) :
    List MatchRule → Except ExpandError (List MatchRule)
  | [] => .ok []
  | r :: rest => do
      let r ← expandRule ctx mode r
      let rest ← expandRules ctx mode rest
      return r :: rest

/-- Expand the request, the test's own values, and the values and names of all rules. -/
def expand (ctx : Context) (mode : Expansion) (t : TestCase) : Except ExpandError TestCase := do
  let input ← t.input.expand ctx mode
  let own ← t.context.values.mapM fun _ => expandValue ctx mode
  let rules ← expandRules ctx mode t.expect.rules
  let extractions ← expandRules ctx mode t.expect.extractions
  return { t with
    input := input
    context := ⟨own⟩
    expect := { t.expect with rules := rules, extractions := extractions } }

/-! ## As documents -/

/-- A test case as a document. -/
def toJson (t : TestCase) : Json :=
  .object ([("@id", .string t.id), ("name", .string t.name)] ++
    Json.unlessBlank "purpose" t.purpose ++ Json.unlessBlank "detail" t.detail ++
    Json.unlessBlank "refURI" t.refUri ++ Json.unlessBlank "apiName" t.apiName ++
    Json.unlessBlank "apiVersion" t.apiVersion ++
    [("input", t.input.toJson), ("context", t.context.toJson), ("expect", t.expect.toJson)])

/-- The fields of a test case in a document. -/
def fields : List Json.Draft.Field :=
  [.required "@id", .defaulted "name", .defaulted "purpose", .defaulted "detail",
    .defaulted "refURI", .defaulted "apiName", .defaulted "apiVersion", .required "input",
    .defaulted "context", .defaulted "expect"]

/-- Take in one field. -/
def setField : Json.Draft.Setter TestCase := fun name depth d t =>
  match name with
  | "@id" => return { t with id := ← d.text depth }
  | "name" => return { t with name := ← d.text depth }
  | "purpose" => return { t with purpose := ← d.text depth }
  | "detail" => return { t with detail := ← d.text depth }
  | "refURI" => return { t with refUri := ← d.text depth }
  | "apiName" => return { t with apiName := ← d.text depth }
  | "apiVersion" => return { t with apiVersion := ← d.text depth }
  | "input" => return { t with input := ← RequestTemplate.reader depth d }
  | "context" => return { t with context := ← Context.reader depth d }
  | _ => return { t with expect := ← Expect.reader depth d }

/-- A test case of a document. -/
def reader : Json.Draft.Reader TestCase :=
  Json.Draft.record fields { id := "", input := { method := "", endpoint := "" } } setField

end TestCase

end Conformance
