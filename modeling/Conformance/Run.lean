import Conformance.Settings
import Conformance.Suite
import Conformance.Walk

/-!
# Runs

What a run is carried out with, and the walk over its suite.
-/

namespace Conformance

/-- What a run is carried out with. -/
structure RunDefinition where
  /-- The test cases. -/
  suite : Suite := {}
  /-- The key that signs the assertions of the client. -/
  signingKey : Option SigningKey := none
  /-- How the run is carried out. -/
  settings : RunSettings := {}
  deriving DecidableEq, Repr, Inhabited

namespace RunDefinition

/-- The context of one run or flow: the values of a starting context, and the key of the definition
unless that context has one of its own. -/
def privateContext (d : RunDefinition) (ctx : Context) : Context :=
  let seeded := match d.signingKey with
    | none => Context.empty
    | some key => Context.empty.put Context.signingKeyName (.handle (.signingKey key))
  seeded.overlay ctx

/-- The walk over all test cases of the suite. -/
def walk (d : RunDefinition) (ctx : Context) : Walk :=
  Walk.start false (d.privateContext ctx) d.suite.testCases

/-- The fragments of names to mask in logs. -/
def fragments (d : RunDefinition) : List String := d.settings.logging.fragments

end RunDefinition

end Conformance
