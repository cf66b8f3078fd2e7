import Conformance.Pattern.Node

/-!
# Programs

A pattern as a program of small steps, each of which names the steps that follow it. Where a program
branches, the first way is the preferred one.
-/

namespace Conformance.Pattern

/-- One step of a program. -/
inductive Step where
  /-- A character of the set has to come. -/
  | take (members : Text.Ranges) (next : Nat)
  /-- Something has to hold at this place. -/
  | check (kind : Look) (next : Nat)
  /-- There are two ways to go on, the first of which is preferred. -/
  | branch (first second : Nat)
  /-- The place is remembered. -/
  | mark (slot : Nat) (next : Nat)
  /-- The pattern has matched. -/
  | accept
  deriving Repr

/-- A program: steps, and the one to begin with. -/
structure Program where
  /-- The steps. -/
  steps : Array Step
  /-- The step to begin with. -/
  start : Nat
  deriving Repr

namespace Node

mutual

/-- Whether a pattern may match without taking a character. -/
def mayBeEmpty : Node → Bool
  | .empty => true
  | .set members => members.spans.isEmpty
  | .look _ => true
  | .repetition least _ _ body => least == 0 || body.mayBeEmpty
  | .capture _ body => body.mayBeEmpty
  | .concat items => allMayBeEmpty items
  | .alternation branches => anyMayBeEmpty branches

/-- Whether all of the patterns may match without taking a character. -/
def allMayBeEmpty : List Node → Bool
  | [] => true
  | n :: rest => n.mayBeEmpty && allMayBeEmpty rest

/-- Whether one of the patterns may match without taking a character. -/
def anyMayBeEmpty : List Node → Bool
  | [] => false
  | n :: rest => n.mayBeEmpty || anyMayBeEmpty rest

end

mutual

/-- The number of bytes that the program of a pattern is taken to fill. -/
def weight : Node → Nat
  | .empty => 0
  | .set members =>
      if members.isAscii then 32 + 8 * members.spans.length else 64 + 60 * members.spans.length
  | .look _ => 32
  | .repetition least most _ body =>
      let w := body.weight
      match most with
      | none => (max least 1) * w + 32
      | some most => least * w + (most - least) * (w + 32)
  | .capture _ body => body.weight + 64
  | .concat items => weights items
  | .alternation branches => weights branches + 32

/-- The sum of the sizes of patterns. -/
def weights : List Node → Nat
  | [] => 0
  | n :: rest => n.weight + weights rest

end

/-! ## Compiling -/

/-- Adds steps to a program so that it goes on with a given step, and tells with which to begin. -/
abbrev Emitter := Nat → Array Step → Nat × Array Step

/-- Add one step. -/
def push (s : Step) (steps : Array Step) : Nat × Array Step := (steps.size, steps.push s)

/-- The step that goes one way or leaves, the first being preferred when `greedy`. -/
def choice (greedy : Bool) (inside outside : Nat) : Step :=
  if greedy then .branch inside outside else .branch outside inside

/-- A number of copies in a row. -/
def copies (emit : Emitter) : Nat → Emitter
  | 0, next, steps => (next, steps)
  | n + 1, next, steps =>
      let (after, steps) := copies emit n next steps
      emit after steps

/-- Up to a number of copies in a row, each of which may be the last. -/
def optionals (greedy : Bool) (emit : Emitter) : Nat → Emitter
  | 0, next, steps => (next, steps)
  | n + 1, next, steps =>
      let (after, steps) := optionals greedy emit n next steps
      let (inside, steps) := emit after steps
      push (choice greedy inside next) steps

/-- One or more copies: where the first begins, and the step between two of them. -/
def loop (greedy : Bool) (emit : Emitter) (next : Nat) (steps : Array Step) :
    Nat × Nat × Array Step :=
  let turn := steps.size
  let (inside, steps) := emit turn (steps.push .accept)
  (inside, turn, steps.set! turn (choice greedy inside next))

mutual

/-- The steps of a pattern. -/
def emit : Node → Emitter
  | .empty, next, steps => (next, steps)
  | .set members, next, steps => push (.take members.toRanges next) steps
  | .look kind, next, steps => push (.check kind next) steps
  | .capture number body, next, steps =>
      let (close, steps) := push (.mark (2 * number + 1) next) steps
      let (inside, steps) := body.emit close steps
      push (.mark (2 * number) inside) steps
  | .concat items, next, steps => emitAll items next steps
  | .alternation branches, next, steps => emitBranches branches next steps
  | .repetition least (some most) greedy body, next, steps =>
      let (after, steps) := optionals greedy body.emit (most - least) next steps
      copies body.emit least after steps
  | .repetition 0 none greedy body, next, steps =>
      let (inside, turn, steps) := loop greedy body.emit next steps
      if body.mayBeEmpty then push (choice greedy inside next) steps else (turn, steps)
  | .repetition (least + 1) none greedy body, next, steps =>
      let (inside, _, steps) := loop greedy body.emit next steps
      copies body.emit least inside steps

/-- The steps of patterns in a row. -/
def emitAll : List Node → Emitter
  | [], next, steps => (next, steps)
  | n :: rest, next, steps =>
      let (after, steps) := emitAll rest next steps
      n.emit after steps

/-- The steps of branches, earlier ones preferred. -/
def emitBranches : List Node → Emitter
  | [], next, steps => (next, steps)
  | [n], next, steps => n.emit next steps
  | n :: rest, next, steps =>
      let (others, steps) := emitBranches rest next steps
      let (first, steps) := n.emit next steps
      push (.branch first others) steps

end

/-- The program of a pattern. -/
def program (n : Node) : Program :=
  let (start, steps) := n.emit 0 #[.accept]
  ⟨steps, start⟩

end Node

end Conformance.Pattern
