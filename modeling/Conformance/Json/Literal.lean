import Conformance.Json.Numeral
import Conformance.Text.Decimal

/-!
# JSON string literals

Reading a string literal in two steps. The first finds its end and splits it into characters and
16-bit escapes, which is all that skipping over a literal asks for. The second joins surrogate pairs
and refuses a surrogate that stands alone.
-/

namespace Conformance.Json

/-- One piece of a string literal. -/
inductive Piece where
  /-- A character, written out or as a short escape. -/
  | char (value : Char)
  /-- A 16-bit unit written as four hexadecimal digits. -/
  | unit (value : Nat)
  deriving DecidableEq, Repr

/-- The character of a short escape. -/
def shortEscape? : Char → Option Char
  | '"' => some '"'
  | '\\' => some '\\'
  | '/' => some '/'
  | 'b' => some (Char.ofNat 8)
  | 'f' => some (Char.ofNat 12)
  | 'n' => some '\n'
  | 'r' => some '\r'
  | 't' => some '\t'
  | _ => none

/-- The number written with four hexadecimal digits. -/
def hexUnit? (a b c d : Char) : Option Nat := do
  let a ← Text.hexValue? a
  let b ← Text.hexValue? b
  let c ← Text.hexValue? c
  let d ← Text.hexValue? d
  return ((a * 16 + b) * 16 + c) * 16 + d

/-- The size of a text in UTF-8. -/
def utf8Length (cs : List Char) : Nat := cs.foldr (fun c n => c.utf8Size + n) 0

/-- The refusal of a four-digit escape: the text ends within it when fewer than four bytes follow. -/
def hexProblem (cs : List Char) : Problem := if utf8Length cs < 4 then .truncated else .malformed

/-- The pieces of a literal whose opening quotation mark has been read, and what follows the closing
one. -/
def scanPieces : List Char → List Piece × Except Problem (List Char)
  | [] => ([], .error .truncated)
  | '"' :: rest => ([], .ok rest)
  | ['\\'] => ([], .error .truncated)
  | '\\' :: 'u' :: a :: b :: c :: d :: rest =>
      match hexUnit? a b c d with
      | none => ([], .error (hexProblem (a :: b :: c :: d :: rest)))
      | some n =>
          let (pieces, after) := scanPieces rest
          (.unit n :: pieces, after)
  | '\\' :: 'u' :: short => ([], .error (hexProblem short))
  | '\\' :: c :: rest =>
      match shortEscape? c with
      | none => ([], .error .malformed)
      | some c =>
          let (pieces, after) := scanPieces rest
          (.char c :: pieces, after)
  | c :: rest =>
      if c.toNat < 0x20 then ([], .error .malformed)
      else
        let (pieces, after) := scanPieces rest
        (.char c :: pieces, after)

/-- Whether a 16-bit unit is the first half of a surrogate pair. -/
def isHighSurrogate (n : Nat) : Bool := 0xD800 ≤ n && n ≤ 0xDBFF

/-- Whether a 16-bit unit is the second half of a surrogate pair. -/
def isLowSurrogate (n : Nat) : Bool := 0xDC00 ≤ n && n ≤ 0xDFFF

/-- The text of pieces that end as given: closed, or with a problem. -/
def joinPieces (ending : Option Problem) : List Piece → Except Problem (List Char)
  | [] => match ending with
    | none => .ok []
    | some p => .error p
  | .char c :: rest => (joinPieces ending rest).map (c :: ·)
  | .unit n :: rest =>
      if isLowSurrogate n then .error .malformed
      else if isHighSurrogate n then
        match rest with
        | .unit m :: rest =>
            if isLowSurrogate m then
              (joinPieces ending rest).map
                (Char.ofNat (0x10000 + (n - 0xD800) * 0x400 + (m - 0xDC00)) :: ·)
            else .error .malformed
        | .char _ :: _ => .error .malformed
        | [] => .error (ending.getD .malformed)
      else (joinPieces ending rest).map (Char.ofNat n :: ·)

/-- The problem that a scan ended with. -/
def faultOf {α : Type} : Except Problem α → Option Problem
  | .ok _ => none
  | .error p => some p

/-- A literal whose opening quotation mark has been read: its text, and separately what follows. -/
def scanString (cs : List Char) : Except Problem String × Except Problem (List Char) :=
  let (pieces, after) := scanPieces cs
  ((joinPieces (faultOf after) pieces).map String.ofList, after)

end Conformance.Json
