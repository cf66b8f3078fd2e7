import Conformance.Trial

/-!
# Walks

Executing test cases one after the other, each with the context that the ones before it have left. A
walk looks at the stop flag before each test case, and rests while a request is to be answered. One
kind of walk goes on after a failed test case, the other ends there.
-/

namespace Conformance

/-- How a walk has ended. -/
inductive Walk.Ending where
  /-- After the last test case. -/
  | completed
  /-- Before a test case, since it was asked to stop. -/
  | stopped
  /-- After a test case that failed. -/
  | failed (test : TestCase) (result : TestResult)

/-- Where a walk stands. -/
inductive Walk.Place where
  /-- Before the first of the remaining test cases. -/
  | before (remaining : List TestCase)
  /-- At a request that is to be answered. -/
  | at (trial : Trial) (remaining : List TestCase)
  | ended (ending : Walk.Ending)

/-- Test cases that are executed one after the other. -/
structure Walk where
  /-- Whether the walk ends at the first failure. -/
  haltsOnFailure : Bool
  /-- The context that the test cases share. -/
  ctx : Context
  /-- Where the walk stands. -/
  place : Walk.Place

namespace Walk

/-- A walk that has not begun. -/
def start (haltsOnFailure : Bool) (ctx : Context) (tests : List TestCase) : Walk :=
  ⟨haltsOnFailure, ctx, .before tests⟩

/-- Go on from a test case that has a result. -/
def leave (w : Walk) (test : TestCase) (result : TestResult) (ctx : Context)
    (remaining : List TestCase) : Walk :=
  { w with
    ctx := ctx
    place := if w.haltsOnFailure && !result.pass then .ended (.failed test result)
      else .before remaining }

/-- Take up the next test case, or end if there is none or the walk is asked to stop. A test case
whose request cannot be prepared has its result at once. -/
def advance [Idna] (w : Walk) (stopped : Bool) : Option TestResult × Walk :=
  match w.place with
  | .before [] => (none, { w with place := .ended .completed })
  | .before (test :: remaining) =>
      if stopped then (none, { w with place := .ended .stopped })
      else
        match test.begin w.ctx with
        | .error result => (some result, w.leave test result w.ctx remaining)
        | .ok trial => (none, { w with place := .at trial remaining })
  | _ => (none, w)

/-- Take in the answer to the request at which the walk rests. -/
def receive (w : Walk) (schemas : Option SchemaCheck) (answer : Answer) :
    Option TestResult × Walk :=
  match w.place with
  | .at trial remaining =>
      let (result, ctx) := trial.conclude schemas answer
      (some result, w.leave trial.test result ctx remaining)
  | _ => (none, w)

/-- How many test cases have no result yet. -/
def remaining (w : Walk) : Nat :=
  match w.place with
  | .before tests => tests.length
  | .at _ tests => tests.length + 1
  | .ended _ => 0

end Walk

end Conformance
