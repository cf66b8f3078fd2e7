import Conformance.MatchRule.Check
import Conformance.Result
import Conformance.TestCase

/-!
# Validation

Judging a response by expectations. Every violation is reported. Values are extracted into the
context only when there is none; then the extractions run one after the other, each seeing what the
earlier ones have written.
-/

namespace Conformance

namespace Expect

/-- The violation of the expected status. -/
def statusViolations (e : Expect) (response : Response) : List Violation :=
  let expected := e.statusCode.toNat
  if expected ≠ 0 ∧ expected ≠ response.status then [.status expected response.status]
  else []

/-- The violations of rules, in their order. -/
def ruleViolations (rules : List MatchRule) (response : Response) (body : Option Json)
    (ctx : Context) : List Violation :=
  rules.filterMap fun r =>
    match r.check response body ctx with
    | .ok _ => none
    | .error v => some v

/-- The violations of the schema, if schemas are asked for and there is something to judge by. -/
def schemaViolations (e : Expect) (response : Response) (schemas : Option SchemaCheck) :
    List Violation :=
  match schemas with
  | some check =>
      if e.schemaValidation then (check response).map fun f => .schema f.display else []
  | none => []

/-- All violations of what must hold before values are extracted. -/
def violations (e : Expect) (response : Response) (ctx : Context)
    (schemas : Option SchemaCheck) : List Violation :=
  e.statusViolations response ++ ruleViolations e.rules response response.json? ctx ++
    e.schemaViolations response schemas

/-- Extract values into a context, one after the other; rules without a name are passed over. -/
def extract (response : Response) (body : Option Json) :
    List MatchRule → Context → List Violation × Context
  | [], ctx => ([], ctx)
  | r :: rest, ctx =>
      if r.contextName = "" then extract response body rest ctx
      else
        match r.check response body ctx with
        | .ok value => extract response body rest (ctx.putText r.contextName value)
        | .error v =>
            let (others, ctx) := extract response body rest ctx
            (.extraction r.contextName v.message :: others, ctx)

/-- Judge a response: its violations, and the context with the values extracted from it. -/
def validate (e : Expect) (response : Response) (ctx : Context) (schemas : Option SchemaCheck) :
    List Violation × Context :=
  let found := e.violations response ctx schemas
  if found.isEmpty then extract response response.json? e.extractions ctx else (found, ctx)

end Expect

/-- The message on a test case whose response violates its expectations. -/
def validationFailed : String := "validation failed"

/-- A violation as a failure of a test case, with the body of the response. -/
def Violation.detail (v : Violation) (response : Response) : FailureDetail :=
  (({ generalError := v.message } : FailureDetail).withResponse response).withMessage
    validationFailed

/-- Judge a response to a test case: the failures, none when it passes, and the context with the
values extracted from the response. -/
def TestCase.validate (t : TestCase) (response : Response) (ctx : Context)
    (schemas : Option SchemaCheck) : List FailureDetail × Context :=
  let (found, ctx) := t.expect.validate response ctx schemas
  (found.map (·.detail response), ctx)

end Conformance
