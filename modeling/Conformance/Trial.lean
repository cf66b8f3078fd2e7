import Conformance.Expect.Validate
import Conformance.TestCase.Prepare

/-!
# Trials

Executing one test case: its request is prepared, sent and answered, and the answer is judged. A
request that cannot be prepared, or that is not answered, is the only failure of its test case.
-/

namespace Conformance

/-- An answered request. -/
structure Exchange where
  /-- The answer. -/
  response : Response
  /-- Its time and size. -/
  metrics : Metrics := {}

/-- Why a request is not answered. -/
inductive ExecutionError where
  /-- The request cannot be sent. -/
  | invalidRequest (reason : String)
  /-- Connecting, sending or receiving failed. -/
  | broken
  deriving DecidableEq, Repr

/-- The message of a request that is not answered. -/
def ExecutionError.message : ExecutionError → String
  | .invalidRequest reason => "invalid request: " ++ reason
  | .broken => "HTTP request failed"

/-- What comes of sending a request. -/
abbrev Answer := Except ExecutionError Exchange

/-- A test case whose request is to be answered. -/
structure Trial where
  /-- The test case. -/
  test : TestCase
  /-- The request. -/
  request : PreparedRequest
  /-- The shared context after preparing the request. -/
  ctx : Context

/-- Prepare the request of a test case; if that fails, the test case has failed. -/
def TestCase.begin [Idna] (t : TestCase) (ctx : Context) : Except TestResult Trial :=
  match t.prepare ctx with
  | .error e => .error (.failed t {} [{ generalError := e.message }])
  | .ok (request, ctx) => .ok ⟨t, request, ctx⟩

/-- Judge the answer to a request: the result, and the shared context with what was extracted. -/
def Trial.conclude (t : Trial) (schemas : Option SchemaCheck) : Answer → TestResult × Context
  | .error e => (.failed t.test {} [{ generalError := e.message }], t.ctx)
  | .ok x =>
      let (failures, ctx) := t.test.validate x.response t.ctx schemas
      if failures.isEmpty then (.passed t.test x.metrics, ctx)
      else (.failed t.test x.metrics failures, ctx)

end Conformance
