import Conformance.Controller

/-!
# Reporting in parallel

Flows that report their results to one controller, each one result after the other. A flow reports a
result in two moves: the result is forwarded on the stream, and then it is kept.
-/

namespace Conformance

/-- A flow with the results that it has still to report. -/
structure Reporter where
  /-- The result that is forwarded and not yet kept. -/
  underway : Option TestResult := none
  /-- The results that are to be reported after that. -/
  ahead : List TestResult

/-- The results of a flow that are not yet kept. -/
def Reporter.unkept (q : Reporter) : List TestResult := q.underway.toList ++ q.ahead

/-- The results that wait on a stream. -/
def ResultStream.waiting : ResultStream → List TestResult
  | .listening waiting => waiting
  | .absent => []
  | .dropped => []

/-- A controller, the flows that report to it, and what its owner has received. -/
structure Reporting where
  /-- The controller. -/
  controller : Controller
  /-- The flows. -/
  reporters : List Reporter
  /-- The results that are taken off the stream, in order. -/
  received : List TestResult

namespace Reporting

/-- What may happen next. -/
inductive Move where
  /-- A flow forwards its next result. -/
  | forward (flow : Nat)
  /-- The result that a flow has forwarded is kept. -/
  | record (flow : Nat)
  /-- The owner takes a result off the stream. -/
  | receive
  deriving DecidableEq, Repr

/-- Flows with results to report to a new controller. -/
def start (flows : List (List TestResult)) : Reporting where
  controller := .streaming
  reporters := flows.map fun results => { ahead := results }
  received := []

/-- One move; what does not fit changes nothing. -/
def step (s : Reporting) : Move → Reporting
  | .forward k =>
      match s.reporters[k]? with
      | some ⟨none, r :: rest⟩ =>
          { s with
            controller := s.controller.forward r
            reporters := s.reporters.set k ⟨some r, rest⟩ }
      | _ => s
  | .record k =>
      match s.reporters[k]? with
      | some ⟨some r, rest⟩ =>
          { s with
            controller := s.controller.record r
            reporters := s.reporters.set k ⟨none, rest⟩ }
      | _ => s
  | .receive =>
      { s with
        controller := s.controller.receive.2
        received := s.received ++ s.controller.receive.1.toList }

/-- Moves one after the other. -/
def play (s : Reporting) (moves : List Move) : Reporting := moves.foldl step s

/-- What the stream has delivered: what was received and what waits to be. -/
def delivered (s : Reporting) : List TestResult := s.received ++ s.controller.stream.waiting

/-- The results that are forwarded and not yet kept. -/
def underway (s : Reporting) : List TestResult := s.reporters.filterMap fun q => q.underway

/-- Whether all results are reported. -/
def isDone (s : Reporting) : Bool := s.reporters.all fun q => q.unkept.isEmpty

/-- Whether each result is kept before the next one is forwarded. -/
def isSequential (s : Reporting) : List Move → Bool
  | [] => true
  | .forward k :: rest => s.underway.isEmpty && (s.step (.forward k)).isSequential rest
  | m :: rest => (s.step m).isSequential rest

end Reporting

end Conformance
