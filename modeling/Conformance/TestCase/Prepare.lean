import Conformance.Request.Prepare
import Conformance.TestCase

/-!
# Preparing test cases

The request of a test case is prepared with the values of its own context and of the shared one,
which wins where both set a name. What preparing makes is kept in the shared context.
-/

namespace Conformance.TestCase

/-- The values that the templates of a test case are expanded with. -/
def workingContext (t : TestCase) (ctx : Context) : Context := t.context.overlay ctx

/-- The concrete request of a test case, and the shared context with what preparing has made. -/
def prepare [Idna] (t : TestCase) (ctx : Context) :
    Except RequestError (PreparedRequest × Context) :=
  match t.input.prepare (t.workingContext ctx) with
  | .error e => .error e
  | .ok request => .ok (request, ctx.putTexts request.generated.entries)

end Conformance.TestCase
