import Conformance.Binary64
import Conformance.Response
import Conformance.TestCase

/-!
# Results

The outcome of one executed test case: whether it passed, how long its exchange took, and what
failed.
-/

namespace Conformance

/-- One failure of a test case. -/
structure FailureDetail where
  /-- What failed. -/
  generalError : String
  /-- The body of the response: its JSON value, or else its text. -/
  endpointResponse : Option Json := none
  /-- A message on the test case as a whole. -/
  testCaseMessage : String := ""
  deriving Inhabited

namespace FailureDetail

/-- A failure with the body of a response. -/
def withResponse (d : FailureDetail) (r : Response) : FailureDetail :=
  { d with endpointResponse := some r.diagnosticBody }

/-- A failure with a message on the test case. -/
def withMessage (d : FailureDetail) (message : String) : FailureDetail :=
  { d with testCaseMessage := message }

/-- A failure as a document. -/
def toJson (d : FailureDetail) : Json :=
  .object ([("generalError", .string d.generalError)] ++
    Json.whenSome "endpointResponse" d.endpointResponse id ++
    Json.unlessBlank "testCaseMessage" d.testCaseMessage)

/-- A failure of a document. -/
def reader : Json.Draft.Reader FailureDetail :=
  Json.Draft.record
    [.required "generalError", .defaulted "endpointResponse", .defaulted "testCaseMessage"]
    { generalError := "" } fun name depth d f =>
      match name with
      | "generalError" => return { f with generalError := ← d.text depth }
      | "endpointResponse" =>
          return { f with endpointResponse := ← Json.Draft.nullable Json.Draft.value depth d }
      | _ => return { f with testCaseMessage := ← d.text depth }

end FailureDetail

/-- Time and size of one exchange. -/
structure Metrics where
  /-- The nanoseconds from sending the request to the end of the response. -/
  nanos : Nat := 0
  /-- The bytes of the response's body. -/
  size : Nat := 0
  deriving DecidableEq, Repr, Inhabited

/-- The response time in milliseconds. -/
def Metrics.millis (m : Metrics) : Binary64 :=
  ((Binary64.ofNat m.nanos).div? (.ofNat 1000000)).getD (.zero false)

/-- Time and size as a document. -/
def Metrics.toJson (m : Metrics) : Json :=
  .object [("response_time", .number (.float m.millis)), ("response_size", .nat m.size)]

/-- The outcome of one executed test case. -/
structure TestResult where
  /-- The identifier of the test case. -/
  id : String
  /-- Whether it passed. -/
  pass : Bool
  /-- Time and size of its exchange. -/
  metrics : Metrics
  /-- What failed. -/
  failures : List FailureDetail
  /-- The description of the test case. -/
  detail : String
  /-- Where the tested rule is stated. -/
  refUri : String
  /-- The endpoint as the test case describes it. -/
  endpoint : String
  /-- The tested interface. -/
  apiName : String
  /-- Its version. -/
  apiVersion : String
  deriving Inhabited

namespace TestResult

/-- The outcome of a test case from its parts. -/
def ofCase (t : TestCase) (pass : Bool) (metrics : Metrics) (failures : List FailureDetail) :
    TestResult :=
  { id := t.id, pass, metrics, failures, detail := t.detail, refUri := t.refUri,
    endpoint := t.input.endpoint, apiName := t.apiName, apiVersion := t.apiVersion }

/-- The outcome of a test case that passed. -/
def passed (t : TestCase) (metrics : Metrics) : TestResult := ofCase t true metrics []

/-- The outcome of a test case that failed. -/
def failed (t : TestCase) (metrics : Metrics) (failures : List FailureDetail) : TestResult :=
  ofCase t false metrics failures

/-- The message of the first failure. -/
def firstError? (r : TestResult) : Option String := r.failures.head?.map (·.generalError)

/-- A result as a document. -/
def toJson (r : TestResult) : Json :=
  .object ([("id", .string r.id), ("pass", .bool r.pass), ("metrics", r.metrics.toJson)] ++
    Json.unlessNone "fail" r.failures FailureDetail.toJson ++
    [("detail", .string r.detail), ("refURI", .string r.refUri), ("endpoint", .string r.endpoint)])

end TestResult

end Conformance
