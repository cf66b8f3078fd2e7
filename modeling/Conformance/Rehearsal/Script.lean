import Conformance.Text.Split
import Conformance.Trial

/-!
# Scripts

Answers that are laid down beforehand: a list of rules, of which the first that fits a request and
is not used up answers it, after a delay.
-/

namespace Conformance

/-- A rule of a script. -/
structure ScriptRule where
  /-- The method that a request must have. -/
  method : Option String := none
  /-- The path that a request must have. -/
  path : Option String := none
  /-- A text that must occur in the body or the URL of a request. -/
  fragment : Option String := none
  /-- How often the rule can still be used, if not forever. -/
  uses : Option Nat := none
  /-- The nanoseconds until the answer. -/
  delay : Nat := 0
  /-- Whether the run is asked to stop at once. -/
  stops : Bool := false
  /-- The answer. -/
  answer : Answer

/-- What a script plays for one request. -/
structure ScriptCue where
  /-- The nanoseconds until the answer. -/
  delay : Nat
  /-- Whether the run is asked to stop at once. -/
  stops : Bool
  /-- The answer. -/
  answer : Answer

/-- The body of a request as it is sent: its form, else its body, else nothing. -/
def PreparedRequest.sent (r : PreparedRequest) : String :=
  (r.formBody?.or r.body).getD ""

namespace ScriptRule

variable [Idna]

/-- Whether a rule can answer a request. -/
def fits (r : ScriptRule) (request : PreparedRequest) : Bool :=
  r.uses != some 0 && r.method.all (· == request.method) && r.path.all (· == request.path) &&
    r.fragment.all fun f => Text.contains request.sent f || Text.contains request.url f

/-- The rule after one use. -/
def use (r : ScriptRule) : ScriptRule := { r with uses := r.uses.map (· - 1) }

/-- The answer of a rule to a request, which the response names. -/
def cue (r : ScriptRule) (request : PreparedRequest) : ScriptCue where
  delay := r.delay
  stops := r.stops
  answer := r.answer.map fun x =>
    { x with response := x.response.withRequest request.method request.path }

end ScriptRule

namespace Script

/-- What is played for a request that no rule answers. -/
def unanswered : ScriptCue := ⟨0, false, .error (.invalidRequest "no scripted response")⟩

/-- What a script plays for a request, and the script after that. -/
def play [Idna] (request : PreparedRequest) : List ScriptRule → ScriptCue × List ScriptRule
  | [] => (unanswered, [])
  | r :: rest =>
      if r.fits request then (r.cue request, r.use :: rest)
      else
        let (cue, rest) := play request rest
        (cue, r :: rest)

end Script

end Conformance
