import Conformance.Controller
import Conformance.Run
import Conformance.Walk.Course

/-!
# Courses of runs

A run with what it has done and what it shares with its owner. It looks at the stop flag in one move and
goes on in another, so that its owner may ask it to stop at any moment, also between the two.
-/

namespace Conformance.RunDefinition

/-- What a run shares with its owner, and what it has done. -/
structure Course where
  /-- What its walk has done. -/
  course : Walk.Course
  /-- The schemas that responses are judged by. -/
  schemas : Option SchemaCheck
  /-- What it shares with its owner. -/
  controller : Controller
  /-- What it has seen of the stop flag, when it has looked at it before its next test case. -/
  looked : Option Bool := none
  /-- Whether it has come to its end. -/
  gone : Bool := false

namespace Course

/-- What may happen to a run. -/
inductive Move where
  /-- Its owner asks it to stop. -/
  | stop
  /-- It looks at the stop flag before its next test case. -/
  | look
  /-- It goes on from there; after the last test case it says that it has completed. -/
  | go
  /-- Its request gets an answer. -/
  | receive (answer : Answer)

/-- A run that has just been started. -/
def start (d : RunDefinition) (ctx : Context) (schemas : Option SchemaCheck) (owner : Controller) :
    Course where
  course := { walk := d.walk ctx }
  schemas := schemas
  controller := owner

variable [Idna]

/-- The walk makes a move, and the result that comes of it is reported. -/
def moved (c : Course) (m : Walk.Move) : Course :=
  { c with
    course := c.course.step m
    controller := (c.course.outcome m).elim c.controller c.controller.report
    looked := none }

/-- One move; one that does not fit where the run stands changes nothing. -/
def step (c : Course) : Move → Course
  | .stop => { c with controller := c.controller.stop }
  | .look =>
      match c.course.walk.place, c.looked with
      | .before (_ :: _), none => { c with looked := some c.controller.stopped }
      | _, _ => c
  | .go =>
      match c.course.walk.place, c.looked with
      | .before [], _ => c.moved (.advance false)
      | .before (_ :: _), some stopped => c.moved (.advance stopped)
      | .ended _, _ =>
          if c.gone then c else { c with gone := true, controller := c.controller.complete }
      | _, _ => c
  | .receive a =>
      match c.course.walk.place with
      | .at _ _ => c.moved (.receive c.schemas a)
      | _ => c

/-- Any number of moves. -/
def play (c : Course) (moves : List Move) : Course := moves.foldl step c

/-- The test case that the run is at, once it has looked at the stop flag and found it down. -/
def underway? (c : Course) : Option TestCase :=
  match c.course.walk.place, c.looked with
  | .before (test :: _), some false => some test
  | .at trial _, _ => some trial.test
  | _, _ => none

end Course

end Conformance.RunDefinition
