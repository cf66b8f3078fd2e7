import Conformance.Text.Decimal
import Conformance.Text.Split

/-!
# Sets of code points

A set of code points as the increasing list of its ranges. Tables are written as text: hexadecimal
code points and ranges `first-last`, with blanks between any two.
-/

namespace Conformance.Text

/-- A set of code points: ranges with both ends included, in increasing order and apart. -/
structure Ranges where
  /-- The first and last code point of each range. -/
  spans : Array (Nat × Nat)
  deriving Repr

namespace Ranges

/-- The number written with hexadecimal digits; other characters count as zero. -/
def readHex (cs : List Char) : Nat := cs.foldl (fun n c => n * 16 + (hexValue? c).getD 0) 0

/-- A range as it is written in a table. -/
def readSpan (cs : List Char) : Nat × Nat :=
  match splitOn '-' cs with
  | [a, b] => (readHex a, readHex b)
  | _ => (readHex cs, readHex cs)

/-- The set written as a table text. -/
def ofText (s : String) : Ranges :=
  let words := (splitOn '\n' s.toList).flatMap (splitOn ' ')
  ⟨((words.filter (! ·.isEmpty)).map readSpan).toArray⟩

/-- Whether one of the ranges from `lo` up to `hi` holds `n`, by halving. -/
def search (spans : Array (Nat × Nat)) (n : Nat) : Nat → Nat → Nat → Bool
  | 0, _, _ => false
  | fuel + 1, lo, hi =>
      if lo < hi then
        let mid := (lo + hi) / 2
        match spans[mid]? with
        | none => false
        | some (a, b) =>
            if n < a then search spans n fuel lo mid
            else if b < n then search spans n fuel (mid + 1) hi
            else true
      else false

/-- Whether the set holds `c`. -/
def contains (r : Ranges) (c : Char) : Bool :=
  search r.spans c.toNat (r.spans.size + 1) 0 r.spans.size

end Ranges

end Conformance.Text
