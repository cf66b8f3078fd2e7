import Conformance.Pattern.Program

/-!
# Patterns

Finding the part of a text that a pattern matches: the leftmost one, and of those that begin there
the one that the pattern prefers. All ways to match are followed side by side, in the order in which
they are preferred, so that the time is bounded by the sizes of text and program.
-/

namespace Conformance

/-- A compiled pattern. -/
structure Pattern where
  /-- The program. -/
  program : Pattern.Program
  deriving Repr

namespace Pattern

/-- The pattern of a text. -/
def compile (source : String) : Except PatternError Pattern :=
  match Node.read source with
  | .error fault => .error (.refused source fault)
  | .ok node => if sizeLimit < node.weight then .error .tooLarge else .ok ⟨node.program⟩

/-! ## Places -/

/-- Whether `c` is part of a word, by Unicode or by ASCII. -/
def isWordChar (unicode : Bool) (words : Text.Ranges) : Option Char → Bool
  | none => false
  | some c =>
      if c.toNat < 0x80 then c.isAlphanum || c == '_' else unicode && words.contains c

/-- Whether something holds between two characters. -/
def Look.holds (words : Text.Ranges) (before after : Option Char) : Look → Bool
  | .textStart => before.isNone
  | .textEnd => after.isNone
  | .lineStart carriageReturn =>
      match before with
      | none => true
      | some c => c == '\n' || (carriageReturn && c == '\r' && after != some '\n')
  | .lineEnd carriageReturn =>
      match after with
      | none => true
      | some c =>
          (c == '\n' && !(carriageReturn && before == some '\r')) || (carriageReturn && c == '\r')
  | .word kind unicode =>
      let b := isWordChar unicode words before
      let a := isWordChar unicode words after
      match kind with
      | .wordBoundary => b != a
      | .notWordBoundary => b == a
      | .wordStart => !b && a
      | .wordEnd => b && !a
      | .wordStartHalf => !b
      | .wordEndHalf => !a
      | _ => false

/-! ## Following a program -/

/-- The places remembered so far, latest first. -/
abbrev Marks := List (Nat × Nat)

/-- One way to match: the step that comes next, and the places remembered. -/
structure Thread where
  /-- The step that comes next. -/
  step : Nat
  /-- The places remembered so far. -/
  marks : Marks

/-- Follow threads to the steps that take a character or accept, in order of preference. A step that
is reached twice counts for the first. The first argument bounds the number of steps. -/
def settle (p : Program) (words : Text.Ranges) (before after : Option Char) (place : Nat) :
    Nat → List Thread → Array Bool → List Thread → List Thread
  | 0, _, _, done => done.reverse
  | _, [], _, done => done.reverse
  | fuel + 1, t :: rest, seen, done =>
      if seen[t.step]?.getD true then settle p words before after place fuel rest seen done
      else
        let seen := seen.set! t.step true
        match p.steps[t.step]? with
        | none => settle p words before after place fuel rest seen done
        | some (.check kind next) =>
            let rest := if kind.holds words before after then ⟨next, t.marks⟩ :: rest else rest
            settle p words before after place fuel rest seen done
        | some (.branch first second) =>
            settle p words before after place fuel (⟨first, t.marks⟩ :: ⟨second, t.marks⟩ :: rest)
              seen done
        | some (.mark slot next) =>
            settle p words before after place fuel (⟨next, (slot, place) :: t.marks⟩ :: rest) seen
              done
        | some (.take _ _) => settle p words before after place fuel rest seen (t :: done)
        | some .accept => settle p words before after place fuel rest seen (t :: done)

/-- The threads after a character, up to the first that accepts, and the marks of that one. -/
def advance (p : Program) (c : Option Char) : List Thread → List Thread × Option Marks
  | [] => ([], none)
  | t :: rest =>
      match p.steps[t.step]? with
      | some .accept => ([], some t.marks)
      | some (.take members next) =>
          let (others, found) := advance p c rest
          if c.any members.contains then (⟨next, t.marks⟩ :: others, found) else (others, found)
      | _ => advance p c rest

/-- Search from a place on: the threads that arrive there, and the best match so far. -/
def searchFrom (p : Program) (words : Text.Ranges) (before : Option Char) (place : Nat)
    (threads : List Thread) (best : Option Marks) : List Char → Option Marks
  | [] =>
      let threads := if best.isNone then threads ++ [⟨p.start, [(0, place)]⟩] else threads
      let settled := settle p words before none place
        (3 * p.steps.size + threads.length + 3) threads (Array.replicate p.steps.size false) []
      match advance p none settled with
      | (_, some marks) => some ((1, place) :: marks)
      | (_, none) => best
  | c :: rest =>
      let threads := if best.isNone then threads ++ [⟨p.start, [(0, place)]⟩] else threads
      if threads.isEmpty then best
      else
        let settled := settle p words before (some c) place
          (3 * p.steps.size + threads.length + 3) threads (Array.replicate p.steps.size false) []
        let (next, found) := advance p (some c) settled
        let best := match found with
          | some marks => some ((1, place) :: marks)
          | none => best
        searchFrom p words (some c) (place + 1) next best rest

/-- The table of the characters that belong to words. -/
def wordTable : Text.Ranges := PropertyQuery.word.toRanges

/-- The places that the preferred match remembers, if there is a match. -/
def search? (p : Pattern) (text : List Char) : Option Marks :=
  searchFrom p.program wordTable none 0 [] none text

/-- The part of a text that a group has matched, the whole match being group zero. -/
def part? (text : List Char) (marks : Marks) (group : Nat) : Option (List Char) :=
  match marks.lookup (2 * group), marks.lookup (2 * group + 1) with
  | some a, some b => some ((text.drop a).take (b - a))
  | _, _ => none

/-- What a pattern finds in a text: what its first group has matched, or the whole match when that
group took no part. -/
def capture? (p : Pattern) (text : String) : Option String :=
  match p.search? text.toList with
  | none => none
  | some marks =>
      ((part? text.toList marks 1).or (part? text.toList marks 0)).map String.ofList

end Pattern

end Conformance
