import Conformance.Text.Decimal

/-!
# Errors in patterns

Why a pattern is refused, and the report on it: the pattern with the places at fault marked below its
lines, and the cause. A pattern of one line is indented; the lines of a longer one are numbered.
-/

namespace Conformance.Pattern

/-- A place in a pattern. -/
structure Place where
  /-- The number of characters before it. -/
  index : Nat
  /-- The line, counted from one. -/
  line : Nat
  /-- The column, counted from one. -/
  column : Nat
  deriving DecidableEq, Repr, Inhabited

/-- A part of a pattern. -/
structure Span where
  /-- Where it begins. -/
  start : Place
  /-- Where what follows it begins. -/
  stop : Place
  deriving DecidableEq, Repr, Inhabited

/-- Why a pattern is refused. -/
inductive Cause where
  | backreference
  | classEscape
  | classOrder
  | classBoundary
  | classUnclosed
  | decimalEmpty
  | decimalTooLarge
  | escapeAtEnd
  | escapeUnknown
  | hexEmpty
  | hexNoCharacter
  | hexNoDigit
  | flagAtEnd
  | flagDangling
  | flagDuplicate
  | flagNegatedTwice
  | flagUnknown
  | groupNameAtEnd
  | groupNameDuplicate
  | groupNameEmpty
  | groupNameInvalid
  | groupUnclosed
  | groupUnopened
  | lookAround
  | nesting (limit : Nat)
  | notText
  | propertyUnknown
  | propertyValueUnknown
  | repetitionEmpty
  | repetitionNoCount
  | repetitionOrder
  | repetitionUnclosed
  | unicodeClass
  | unicodeForbidden
  | wordBoundaryAtEnd
  | wordBoundaryUnclosed
  | wordBoundaryUnknown
  deriving DecidableEq, Repr

/-- The cause in words. -/
def Cause.message : Cause → String
  | .backreference => "backreferences are not supported"
  | .classEscape => "invalid escape sequence found in character class"
  | .classOrder => "invalid character class range, the start must be <= the end"
  | .classBoundary => "invalid range boundary, must be a literal"
  | .classUnclosed => "unclosed character class"
  | .decimalEmpty => "decimal literal empty"
  | .decimalTooLarge => "decimal literal invalid"
  | .escapeAtEnd => "incomplete escape sequence, reached end of pattern prematurely"
  | .escapeUnknown => "unrecognized escape sequence"
  | .hexEmpty => "hexadecimal literal empty"
  | .hexNoCharacter => "hexadecimal literal is not a Unicode scalar value"
  | .hexNoDigit => "invalid hexadecimal digit"
  | .flagAtEnd => "expected flag but got end of regex"
  | .flagDangling => "dangling flag negation operator"
  | .flagDuplicate => "duplicate flag"
  | .flagNegatedTwice => "flag negation operator repeated"
  | .flagUnknown => "unrecognized flag"
  | .groupNameAtEnd => "unclosed capture group name"
  | .groupNameDuplicate => "duplicate capture group name"
  | .groupNameEmpty => "empty capture group name"
  | .groupNameInvalid => "invalid capture group character"
  | .groupUnclosed => "unclosed group"
  | .groupUnopened => "unopened group"
  | .lookAround => "look-around, including look-ahead and look-behind, is not supported"
  | .nesting limit =>
      "exceed the maximum number of nested parentheses/brackets (" ++ Text.decimal limit ++ ")"
  | .notText => "pattern can match invalid UTF-8"
  | .propertyUnknown => "Unicode property not found"
  | .propertyValueUnknown => "Unicode property value not found"
  | .repetitionEmpty => "repetition operator missing expression"
  | .repetitionNoCount => "repetition quantifier expects a valid decimal"
  | .repetitionOrder => "invalid repetition count range, the start must be <= the end"
  | .repetitionUnclosed => "unclosed counted repetition"
  | .unicodeClass => "invalid Unicode character class"
  | .unicodeForbidden => "Unicode not allowed here"
  | .wordBoundaryAtEnd =>
      "found either the beginning of a special word boundary or a bounded repetition on a \\b " ++
        "with an opening brace, but no closing brace"
  | .wordBoundaryUnclosed =>
      "special word boundary assertion is either unclosed or contains an invalid character"
  | .wordBoundaryUnknown =>
      "unrecognized special word boundary assertion, valid choices are: start, end, start-half " ++
        "or end-half"

/-- A refusal: its cause, the part at fault, and an earlier part that it clashes with. -/
structure Fault where
  /-- Why the pattern is refused. -/
  cause : Cause
  /-- The part at fault. -/
  span : Span
  /-- The earlier part that the part at fault clashes with. -/
  earlier : Option Span := none
  deriving DecidableEq, Repr

/-- Why there is no program for a pattern. -/
inductive PatternError where
  /-- It is not written as patterns are. -/
  | refused (pattern : String) (fault : Fault)
  /-- Its program would be too large. -/
  | tooLarge
  deriving DecidableEq, Repr

namespace Fault

/-! ## Reports -/

/-- The lines of a pattern: each ends with a line feed, before which a carriage return is cut. -/
def lines : List Char → List (List Char)
  | [] => []
  | ['\n'] => [[]]
  | ['\r', '\n'] => [[]]
  | '\n' :: rest => [] :: lines rest
  | '\r' :: '\n' :: rest => [] :: lines rest
  | c :: rest =>
      match lines rest with
      | [] => [[c]]
      | first :: others => (c :: first) :: others

/-- The parts at fault, in the order in which they stand. -/
def spans (f : Fault) : List Span :=
  match f.earlier with
  | none => [f.span]
  | some e => if e.start.index < f.span.start.index then [e, f.span] else [f.span, e]

/-- The marks below one line, from a column on. -/
def marksFrom : Nat → List Span → List Char
  | _, [] => []
  | column, s :: rest =>
      let blanks := s.start.column - 1 - column
      let width := max 1 (s.stop.column - s.start.column)
      List.replicate blanks ' ' ++ List.replicate width '^' ++
        marksFrom (column + blanks + width) rest

/-- A line with the marks below it, each ending with a line feed. -/
def markedLine (f : Fault) (width : Nat) (number : Nat) (line : List Char) : List Char :=
  let digits := Text.decimalDigits number
  let lead :=
    if width = 0 then List.replicate 4 ' '
    else List.replicate (width - digits.length) ' ' ++ digits ++ [':', ' ']
  let here := f.spans.filter fun s => s.start.line == number && s.stop.line == number
  let marks :=
    if here.isEmpty then []
    else List.replicate (if width = 0 then 4 else width + 2) ' ' ++ marksFrom 0 here ++ ['\n']
  lead ++ line ++ ['\n'] ++ marks

/-- The note on a part that spans lines. -/
def note (s : Span) : String :=
  "on line " ++ Text.decimal s.start.line ++ " (column " ++ Text.decimal s.start.column ++
    ") through line " ++ Text.decimal s.stop.line ++ " (column " ++
    Text.decimal (s.stop.column - 1) ++ ")\n"

/-- The report on a refused pattern. -/
def report (f : Fault) (pattern : String) : String :=
  let chars := pattern.toList
  let rows := lines chars
  let count := rows.length + if chars.getLast? == some '\n' then 1 else 0
  let width := if count ≤ 1 then 0 else (Text.decimalDigits count).length
  let marked := String.ofList
    ((rows.zipIdx 1).flatMap fun (line, number) => f.markedLine width number line)
  let divider := String.ofList (List.replicate 79 '~') ++ "\n"
  let body :=
    if chars.contains '\n' then
      divider ++ marked ++ divider ++
        String.join ((f.spans.filter fun s => s.start.line != s.stop.line).map note)
    else marked
  "regex parse error:\n" ++ body ++ "error: " ++ f.cause.message

end Fault

/-- The largest size of a program in bytes. -/
def sizeLimit : Nat := 10485760

/-- The message of a pattern without a program. -/
def PatternError.message : PatternError → String
  | .refused pattern fault => fault.report pattern
  | .tooLarge => "Compiled regex exceeds size limit of " ++ Text.decimal sizeLimit ++ " bytes."

end Conformance.Pattern
