import Conformance.Json.Draft
import Conformance.Text.Blank

/-!
# Specification families

The families of specifications that a suite can ask consents for, known by their published names.
-/

namespace Conformance

/-- A family of specifications. -/
inductive SpecType where
  | accounts
  | payments
  | funds
  | notifications
  deriving DecidableEq, Repr, Inhabited

namespace SpecType

/-- The families in order. -/
def all : List SpecType := [.accounts, .payments, .funds, .notifications]

/-- The name of a family in documents and logs. -/
def name : SpecType → String
  | .accounts => "accounts"
  | .payments => "payments"
  | .funds => "funds"
  | .notifications => "notifications"

/-- What the token names of a family begin with. -/
def tokenStem : SpecType → String
  | .accounts => "account"
  | .payments => "payment"
  | .funds => "funds"
  | .notifications => "notification"

/-- The family with a name. -/
def ofName? (s : String) : Option SpecType := all.find? fun t => t.name == s

/-- The published name of a family. -/
def publishedName : SpecType → String
  | .accounts => "Account and Transaction API Specification"
  | .payments => "Payment Initiation API"
  | .funds => "Confirmation of Funds API Specification"
  | .notifications => "Event Notification API Specification - ASPSP Endpoints"

/-- The family of a specification by its published name, blanks around it apart. -/
def classify? (published : String) : Option SpecType :=
  all.find? fun t => t.publishedName == Text.trim published

/-- A family of a document. -/
def reader : Json.Draft.Reader SpecType := fun depth d => do
  let name ← Json.Draft.oneOf (all.map SpecType.name) depth d
  return (ofName? name).getD .accounts

end SpecType

/-- Why the tokens of a specification cannot be found. -/
inductive PermissionError where
  /-- A test case requires and excludes the same codes. -/
  | selfConflict (testId : String) (conflicting : List String)
  /-- The specification is of no known family. -/
  | unknownSpecification (name : String)
  deriving DecidableEq, Repr

/-- The family of a specification, or the refusal of its name. -/
def SpecType.classify (published : String) : Except PermissionError SpecType :=
  match classify? published with
  | some t => .ok t
  | none => .error (.unknownSpecification (Text.trim published))

end Conformance
