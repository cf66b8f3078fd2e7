import Conformance.Consent.Flow
import Conformance.Walk.Course

/-!
# Courses of consent flows

A consent flow with what it has done: its walk makes moves, and when that has ended the flow offers one
item and is gone.
-/

namespace Conformance.ConsentFlow

/-- A flow with what it has done. -/
structure Course where
  /-- The flow. -/
  flow : ConsentFlow
  /-- What its walk has done. -/
  course : Walk.Course
  /-- Whether it has come to its end. -/
  gone : Bool := false
  /-- The items that it has offered to the channel. -/
  offered : List ConsentItem := []

namespace Course

/-- A flow that has just been started. -/
def start (f : ConsentFlow) : Course where
  flow := f
  course := { walk := f.walk }

variable [Idna]

/-- One move. A flow whose walk has ended offers its item when it is let go on, and is gone. -/
def step (c : Course) (m : Walk.Move) : Course :=
  if c.gone then c
  else
    match c.course.walk.place, m with
    | .ended ending, .advance _ =>
        { c with gone := true, offered := c.offered ++ [c.flow.report c.course.walk.ctx ending] }
    | _, _ => { c with course := c.course.step m }

/-- Any number of moves. -/
def play (c : Course) (moves : List Walk.Move) : Course := moves.foldl step c

end Course

end Conformance.ConsentFlow
