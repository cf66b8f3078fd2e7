import Conformance.Component

/-!
# Runners

A runner carries out one run or consent flow at a time: starting takes its guard, which is given
back when the run ends, however it ends.
-/

namespace Conformance

/-- What carries out one run or consent flow at a time. -/
structure Runner where
  /-- What it carries out, as messages say it. -/
  label : String
  /-- Whether something is being carried out. -/
  running : Bool := false
  deriving DecidableEq, Repr, Inhabited

/-- Why a run or consent flow does not start. -/
inductive StartError where
  /-- The runner is still carrying out another one. -/
  | alreadyRunning (label : String)
  /-- The component of the flow cannot run. -/
  | component (error : ComponentError)
  deriving DecidableEq, Repr

/-- The message of a refused start. -/
def StartError.message : StartError → String
  | .alreadyRunning label => label ++ " runner already running"
  | .component e => e.message

namespace Runner

/-- A runner of test suites. -/
def forSuite : Runner := { label := "test cases" }

/-- A runner of consent flows. -/
def forConsent : Runner := { label := "consent acquisition" }

/-- Take the guard, unless it is taken. -/
def acquire (r : Runner) : Except StartError Runner :=
  if r.running then .error (.alreadyRunning r.label) else .ok { r with running := true }

/-- Give the guard back. -/
def release (r : Runner) : Runner := { r with running := false }

/-- A runner as logs show it, with the number of test cases that it has. -/
def display (r : Runner) (testCases : Nat) : String :=
  "TestCaseRunner \x7b label: " ++ Text.quoted r.label ++ ", running: " ++
    (if r.running then "true" else "false") ++ ", test_cases: " ++ Text.decimal testCases ++
    ", .. \x7d"

end Runner

end Conformance
