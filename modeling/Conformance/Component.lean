import Conformance.TestCase
import Conformance.Text.Quoted

/-!
# Components

A named list of test cases that runs as one step of a larger task, such as obtaining a consent. It
declares the names that its test cases read from the context and those that they write.
-/

namespace Conformance

/-- A named list of test cases. -/
structure Component where
  /-- The name. -/
  name : String
  /-- What it does. -/
  description : String := ""
  /-- The names that it reads, with what each is. -/
  inputs : KeyMap String := .empty
  /-- The names that it writes, with what each is. -/
  outputs : KeyMap String := .empty
  /-- The test cases in the order of execution. -/
  tests : List TestCase := []
  deriving DecidableEq, Repr, Inhabited

/-- Why a component cannot run. -/
inductive ComponentError where
  /-- Its definition cannot be read. -/
  | unreadable (name : String) (problem : Json.Problem)
  /-- Its test cases cannot be expanded. -/
  | unexpanded (name : String) (error : ExpandError)
  /-- Names that it reads are not set. -/
  | missingInputs (name : String) (inputs : List String)
  deriving DecidableEq, Repr

/-- The message of a component that cannot run. -/
def ComponentError.message : ComponentError → String
  | .unreadable name problem => "component " ++ name ++ ": " ++ problem.message
  | .unexpanded name error => "component " ++ name ++ ": " ++ error.message
  | .missingInputs name inputs =>
      "component " ++ name ++ " cannot run, missing parameters " ++ Text.quotedList inputs

namespace Component

/-! ## Checking and expanding -/

/-- The names that the component reads and the context does not set, in order. -/
def missingInputs (c : Component) (ctx : Context) : List String :=
  c.inputs.keys.filter fun name => !ctx.contains name

/-- Check that the context sets every name that the component reads. -/
def checkInputs (c : Component) (ctx : Context) : Except ComponentError Unit :=
  let missing := c.missingInputs ctx
  if missing.isEmpty then .ok () else .error (.missingInputs c.name missing)

/-- Expand test cases as far as a context has texts for them. -/
def expandTests (ctx : Context) : List TestCase → Except ExpandError (List TestCase)
  | [] => .ok []
  | t :: rest => do
      let t ← t.expand ctx .lenient
      let rest ← expandTests ctx rest
      return t :: rest

/-- Expand the test cases as far as a context has texts for them: what one test case makes stays a
variable in the next. -/
def expand (c : Component) (ctx : Context) : Except ComponentError Component :=
  match expandTests ctx c.tests with
  | .ok tests => .ok { c with tests := tests }
  | .error e => .error (.unexpanded c.name e)

/-! ## As documents -/

/-- The fields of a component in a document. -/
def fields : List Json.Draft.Field :=
  [.required "name", .defaulted "description", .defaulted "inputParameters",
    .defaulted "outputParameters", .defaulted "testcases"]

/-- Take in one field. -/
def setField : Json.Draft.Setter Component := fun name depth d c =>
  match name with
  | "name" => return { c with name := ← d.text depth }
  | "description" => return { c with description := ← d.text depth }
  | "inputParameters" => return { c with inputs := ← Json.Draft.keyMap Json.Draft.text depth d }
  | "outputParameters" => return { c with outputs := ← Json.Draft.keyMap Json.Draft.text depth d }
  | _ => return { c with tests := ← Json.Draft.list TestCase.reader depth d }

/-- A component of a document. -/
def reader : Json.Draft.Reader Component := Json.Draft.record fields { name := "" } setField

/-- The component that a text defines. -/
def ofText (name text : String) : Except ComponentError Component :=
  match Json.read reader text with
  | .ok c => .ok c
  | .error p => .error (.unreadable name p)

end Component

end Conformance
