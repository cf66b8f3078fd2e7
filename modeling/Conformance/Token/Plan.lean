import Conformance.Token.Store

/-!
# Token plans

The tokens that the test cases of a suite need, by the family of their specification, and pointing
each test case at its token.
-/

namespace Conformance

/-! ## Accounts and funds -/

/-- The permissions of every test case whose own context sets their name. -/
def permissionNeeds (tests : List TestCase) : List PermissionNeed :=
  (tests.filter fun t => t.context.contains TestCase.permissionsName).map fun t =>
    { id := t.id, required := t.permissions, excluded := t.permissionsExcluded }

/-! ## Payments -/

namespace PaymentTokens

/-- The name that marks a test case with a consent of its own. -/
def requestConsentName : String := "requestConsent"

/-- The name under which a test case refers to the consent of another. -/
def consentIdName : String := "consentId"

/-- Where the identifier of a consent stands in a response. -/
def consentIdPath : String := "Data.ConsentId"

/-- Whether a test case asks for a consent of its own. -/
def asksConsent (t : TestCase) : Bool :=
  t.context.getText requestConsentName matches .ok "true"

/-- The name under which a test case keeps the identifier of its consent; empty if it does not. -/
def consentParam (t : TestCase) : String :=
  match t.expect.extractions.find? fun r => r.json == consentIdPath with
  | some r => r.contextName
  | none => ""

/-- Whether a test case refers to the consent that is kept under a name. -/
def refersTo (param : String) (t : TestCase) : Bool :=
  match t.context.getText consentIdName with
  | .ok v => v.toList == '$' :: param.toList
  | .error _ => false

/-- One token for each test case with a consent of its own, numbered from `made + 1` on. -/
def fresh (made : UInt32) : List TestCase → List TokenRequirement
  | [] => []
  | t :: rest =>
      { name := TokenStore.tokenName SpecType.payments.tokenStem (made + 1).toNat,
        ids := [t.id], consentParam := consentParam t } :: fresh (made + 1) rest

/-- Add the test cases that refer to the consent of a token, each identifier once. -/
def addReferences (param : String) : List TestCase → List String → List String
  | [], ids => ids
  | t :: rest, ids =>
      addReferences param rest
        (if refersTo param t && !ids.contains t.id then ids ++ [t.id] else ids)

/-- A token with the test cases that refer to its consent. -/
def withReferences (tests : List TestCase) (t : TokenRequirement) : TokenRequirement :=
  if t.consentParam = "" then t
  else { t with ids := addReferences t.consentParam tests t.ids }

end PaymentTokens

/-- One token for each payment test case with a consent of its own. -/
def paymentTokens (tests : List TestCase) : List TokenRequirement :=
  (PaymentTokens.fresh 0 (tests.filter PaymentTokens.asksConsent)).map
    (PaymentTokens.withReferences tests)

/-! ## Suites -/

/-- The tokens that the test cases of one specification need. -/
def requiredTokens (tests : List TestCase) (specType : SpecType) :
    Except PermissionError (List TokenRequirement) :=
  match specType with
  | .accounts => TokenStore.resolve specType.tokenStem (permissionNeeds tests)
  | .funds => TokenStore.resolve specType.tokenStem (permissionNeeds tests)
  | .payments => .ok (paymentTokens tests)
  | .notifications => .ok []

/-- A remark on one specification of a suite. -/
inductive PlanNote where
  /-- The specification is left out. -/
  | skipped (spec : String) (reason : PermissionError)
  /-- The tokens were found. -/
  | resolved (spec : SpecType) (tokens : Nat)
  deriving DecidableEq, Repr

/-- The tokens of one specification, unless it is left out, and the remark on it. -/
def planSpecification (s : SpecificationCases) : Option SpecTokens × PlanNote :=
  match SpecType.classify s.specification.name with
  | .error e => (none, .skipped s.specification.name e)
  | .ok specType =>
      match requiredTokens s.testCases specType with
      | .error e => (none, .skipped specType.name e)
      | .ok tokens =>
          (some ⟨s.specification.name, specType, tokens⟩, .resolved specType tokens.length)

/-- The tokens of every specification of a suite that is not left out. -/
def suiteTokens (s : Suite) : List SpecTokens :=
  s.specifications.filterMap fun c => (planSpecification c).1

/-- The remarks on the specifications of a suite, in order. -/
def planNotes (s : Suite) : List PlanNote := s.specifications.map fun c => (planSpecification c).2

/-! ## Pointing test cases at tokens -/

/-- The header that carries a token. -/
def authorizationHeader : String := "Authorization"

/-- Point a test case at the first token that covers it, unless that one is unrestricted. -/
def assignToken (tokens : List TokenRequirement) (t : TestCase) : TestCase :=
  match tokens.find? fun token => token.ids.contains t.id with
  | none => t
  | some token =>
      if token.isUnrestricted then t
      else { t with input := { t.input with
        headers := t.input.headers.put authorizationHeader ("Bearer $" ++ token.name) } }

/-- Point test cases at their tokens. -/
def assignTokens (tokens : List TokenRequirement) (tests : List TestCase) : List TestCase :=
  tests.map (assignToken tokens)

/-- The acquired tokens by name. -/
def acquiredTokens (tokens : List TokenRequirement) : KeyMap String :=
  .ofList (tokens.map fun t => (t.name, t.token))

end Conformance
