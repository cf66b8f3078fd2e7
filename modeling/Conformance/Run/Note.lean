import Conformance.Channel
import Conformance.Consent.Item
import Conformance.Redaction
import Conformance.Trial

/-!
# Notes of runs

What a run logs: the context before a test case, the test case with its request, its result, and
what becomes of the item of a consent flow. What could be secret is masked.
-/

namespace Conformance

/-- The weight of a note. -/
inductive NoteLevel where
  | error
  | warn
  | info
  | debug
  | trace
  deriving DecidableEq, Repr

/-- Something that a run logs. -/
inductive RunNote where
  /-- The context before a test case, masked, and its size. -/
  | contextDump (document : Json) (entries : Nat)
  /-- A request goes out, with its headers masked. -/
  | executing (id method path : String) (headers : KeyMap String)
  /-- A test case that failed. -/
  | testCase (test : TestCase)
  /-- A result, with the number of violations if the answer was judged to fail. -/
  | result (id : String) (pass : Bool) (failures : Option Nat)
  /-- The item of a consent flow is sent. -/
  | sendingItem (tokenName : String) (failed : Bool)
  /-- The item of a consent flow is dropped. -/
  | droppedItem (tokenName : String) (receiverGone : Bool)

namespace RunNote

/-- The weight of a note. -/
def level : RunNote → NoteLevel
  | .contextDump .. => .trace
  | .executing .. => .debug
  | .testCase .. => .trace
  | .result _ pass _ => if pass then .info else .error
  | .sendingItem .. => .debug
  | .droppedItem .. => .warn

/-- The note on the context before a test case. -/
def ofContext (fragments : List String) (ctx : Context) : RunNote :=
  let (document, entries) := Redaction.dump fragments ctx
  .contextDump document entries

/-- The note on the beginning of a test case. -/
def ofBeginning [Idna] (fragments : List String) (test : TestCase) :
    Except TestResult Trial → RunNote
  | .error _ => .testCase test
  | .ok trial => .executing test.id trial.request.method trial.request.path
      (Redaction.redactHeaders fragments trial.request.headers)

/-- The notes on the answer to the request of a test case. -/
def ofAnswer (test : TestCase) (answer : Answer) (result : TestResult) : List RunNote :=
  match answer with
  | .error _ => [.result test.id false none]
  | .ok _ =>
      if result.pass then [.result test.id true none]
      else [.result test.id false (some result.failures.length), .testCase test]

/-- The notes on an item that is sent. -/
def ofSending (item : ConsentItem) (outcome : SendOutcome) : List RunNote :=
  .sendingItem item.tokenName item.isError ::
    match outcome with
    | .accepted => []
    | .full => [.droppedItem item.tokenName false]
    | .abandoned => [.droppedItem item.tokenName true]

end RunNote

end Conformance
