import Conformance.Result

/-!
# Controllers

What a run shares with its owner: a flag that asks it to stop, the results so far, whether it has
completed, and a stream on which every result is forwarded as it is reported.
-/

namespace Conformance

/-- What is left to receive from a stream. -/
inductive ResultStream where
  /-- There is no stream. -/
  | absent
  /-- The results that are forwarded but not yet received. -/
  | listening (waiting : List TestResult)
  /-- The receiver is gone. -/
  | dropped
  deriving Inhabited

/-- What a run shares with its owner. -/
structure Controller where
  /-- Whether the run is asked to stop. -/
  stopped : Bool := false
  /-- The results in the order in which they were reported. -/
  results : List TestResult := []
  /-- Whether the run has completed. -/
  completed : Bool := false
  /-- The stream of results. -/
  stream : ResultStream := .absent
  deriving Inhabited

namespace Controller

/-- A controller that forwards every result. -/
def streaming : Controller := { stream := .listening [] }

/-- Ask the run to stop. -/
def stop (c : Controller) : Controller := { c with stopped := true }

/-- Forward a result on the stream, if someone listens to it. -/
def forward (c : Controller) (r : TestResult) : Controller :=
  { c with stream := match c.stream with
    | .listening waiting => .listening (waiting ++ [r])
    | .absent => .absent
    | .dropped => .dropped }

/-- Keep a result. -/
def record (c : Controller) (r : TestResult) : Controller := { c with results := c.results ++ [r] }

/-- Report a result: it is forwarded, then kept. -/
def report (c : Controller) (r : TestResult) : Controller := (c.forward r).record r

/-- Say that the run has completed. -/
def complete (c : Controller) : Controller := { c with completed := true }

/-- Drop the receiver of the stream. -/
def dropStream (c : Controller) : Controller :=
  { c with stream := match c.stream with
    | .absent => .absent
    | _ => .dropped }

/-- Take the next result off the stream; nothing when none is waiting. -/
def receive (c : Controller) : Option TestResult × Controller :=
  match c.stream with
  | .listening (r :: rest) => (some r, { c with stream := .listening rest })
  | _ => (none, c)

/-- Whether someone listens to the stream. -/
def isListening (c : Controller) : Bool :=
  match c.stream with
  | .listening _ => true
  | _ => false

end Controller

end Conformance
