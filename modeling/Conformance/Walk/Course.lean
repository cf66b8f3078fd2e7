import Conformance.Walk

/-!
# Courses of walks

A walk together with what it has done: the test cases that were taken up, the requests that were sent,
the answers, and the results that were reported. A course is moved on by letting its walk go on, with the
stop flag up or down, and by answering its request.
-/

namespace Conformance.Walk

/-- What may be done with a walk. -/
inductive Move where
  /-- It is let go on; the stop flag is up or down. -/
  | advance (stopped : Bool)
  /-- Its request gets an answer, which may be judged by schemas. -/
  | receive (schemas : Option SchemaCheck) (answer : Answer)

/-- The request at which a walk rests. -/
def trial? (w : Walk) : Option Trial :=
  match w.place with
  | .at trial _ => some trial
  | _ => none

/-- A walk and what it has done. -/
structure Course where
  /-- Where it stands now. -/
  walk : Walk
  /-- The test cases that were taken up. -/
  begun : List TestCase := []
  /-- The requests that were sent. -/
  sent : List Trial := []
  /-- The answers to them. -/
  answers : List Answer := []
  /-- The results that were reported. -/
  results : List TestResult := []
  /-- Whether the walk has looked at the stop flag while it was up. -/
  sawStop : Bool := false

namespace Course

variable [Idna]

/-- One move; one that does not fit where the walk stands changes nothing. -/
def step (c : Course) : Move → Course
  | .advance stopped =>
      match c.walk.place with
      | .before remaining =>
          let (result, walk) := c.walk.advance stopped
          { c with
            walk := walk
            begun := c.begun ++ if stopped then [] else remaining.take 1
            sent := c.sent ++ walk.trial?.toList
            results := c.results ++ result.toList
            sawStop := c.sawStop || (stopped && !remaining.isEmpty) }
      | _ => c
  | .receive schemas a =>
      match c.walk.place with
      | .at _ _ =>
          let (result, walk) := c.walk.receive schemas a
          { c with
            walk := walk
            answers := c.answers ++ [a]
            results := c.results ++ result.toList }
      | _ => c

/-- The result that a move gives, if it gives one. -/
def outcome (c : Course) : Move → Option TestResult
  | .advance stopped => (c.walk.advance stopped).1
  | .receive schemas a => (c.walk.receive schemas a).1

/-- Any number of moves. -/
def play (c : Course) (moves : List Move) : Course := moves.foldl step c

end Course

end Conformance.Walk
