import Conformance.Text.CaseTable
import Conformance.Text.Ranges

/-!
# Sets of characters

Sets of code points with the operations that character classes are built with: union, intersection,
difference, complement, and closure under simple case folding.
-/

namespace Conformance.Pattern

open Text (Ranges)

/-- A set of code points: its ranges in increasing order, apart from each other. -/
structure Charset where
  /-- The first and last code point of each range. -/
  spans : List (Nat × Nat)
  deriving DecidableEq, Repr, Inhabited

namespace Charset

/-- The last code point. -/
def lastCode : Nat := 0x10FFFF

/-- Join ranges that touch, given the range at hand and the later ones by their first code points. -/
def coalesce : Nat × Nat → List (Nat × Nat) → List (Nat × Nat)
  | s, [] => [s]
  | (a, b), (c, d) :: rest =>
      if c ≤ b + 1 then coalesce (a, max b d) rest else (a, b) :: coalesce (c, d) rest

/-- The set of ranges in any order. -/
def ofSpans (spans : List (Nat × Nat)) : Charset :=
  match spans.mergeSort fun s t => s.1 ≤ t.1 with
  | [] => ⟨[]⟩
  | s :: rest => ⟨coalesce s rest⟩

/-- The set without members. -/
def empty : Charset := ⟨[]⟩

/-- The set of all code points. -/
def all : Charset := ⟨[(0, lastCode)]⟩

/-- The set of a table. -/
def ofRanges (r : Ranges) : Charset := ofSpans r.spans.toList

/-- The set of one character. -/
def single (c : Char) : Charset := ⟨[(c.toNat, c.toNat)]⟩

/-- The characters from `a` to `b`. -/
def range (a b : Char) : Charset := ⟨[(a.toNat, b.toNat)]⟩

/-- The members of either set. -/
def union (s t : Charset) : Charset := ofSpans (s.spans ++ t.spans)

/-- The members of any of the sets. -/
def unions (sets : List Charset) : Charset := ofSpans (sets.flatMap spans)

/-- The gaps between ranges from `start` on, up to `last`. -/
def gaps (last : Nat) : Nat → List (Nat × Nat) → List (Nat × Nat)
  | start, [] => if start ≤ last then [(start, last)] else []
  | start, (a, b) :: rest =>
      (if start < a then [(start, a - 1)] else []) ++ gaps last (b + 1) rest

/-- The code points up to `last` that are no members. -/
def complementTo (last : Nat) (s : Charset) : Charset := ⟨gaps last 0 s.spans⟩

/-- The code points that are no members. -/
def complement (s : Charset) : Charset := s.complementTo lastCode

/-- The members of both sets. -/
def inter (s t : Charset) : Charset := (s.complement.union t.complement).complement

/-- The members of the first set that are not in the second. -/
def diff (s t : Charset) : Charset := s.inter t.complement

/-- The members of exactly one of the sets. -/
def symmDiff (s t : Charset) : Charset := (s.diff t).union (t.diff s)

/-- Whether every member is an ASCII character. -/
def isAscii (s : Charset) : Bool := s.spans.all fun e => e.2 < 0x80

/-- The set as a table for looking up. -/
def toRanges (s : Charset) : Ranges := ⟨s.spans.toArray⟩

/-! ## Case -/

/-- Pairs of characters of one case-insensitive class that lower case alone does not bring
together. -/
def casePairs : List (Nat × Nat) :=
  [(0x53, 0x17F), (0xB5, 0x39C), (0x345, 0x399), (0x345, 0x1FBE), (0x390, 0x1FD3), (0x392, 0x3D0),
    (0x395, 0x3F5), (0x398, 0x3D1), (0x39A, 0x3F0), (0x3A0, 0x3D6), (0x3A1, 0x3F1),
    (0x3A3, 0x3C2), (0x3A6, 0x3D5), (0x3B0, 0x1FE3), (0x412, 0x1C80), (0x414, 0x1C81),
    (0x41E, 0x1C82), (0x421, 0x1C83), (0x422, 0x1C84), (0x422, 0x1C85), (0x42A, 0x1C86),
    (0x462, 0x1C87), (0x1C88, 0xA64A), (0x1E60, 0x1E9B), (0xFB05, 0xFB06)]

/-- The part of a range that lies on a row of code points with a step between them, moved by a
distance. -/
def moveSpan (first last step : Nat) (distance : Int) (s : Nat × Nat) : List (Nat × Nat) :=
  let lo := max first s.1
  let hi := min last s.2
  if hi < lo then []
  else
    let move (n : Nat) : Nat := ((n : Int) + distance).toNat
    if step = 1 then [(move lo, move hi)]
    else
      let start := lo + (step - (lo - first) % step) % step
      (List.range ((hi + step - start) / step)).map fun i =>
        (move (start + i * step), move (start + i * step))

/-- The partner of a member in one pair. -/
def pairSpans (spans : List (Nat × Nat)) (pair : Nat × Nat) : List (Nat × Nat) :=
  let holds (n : Nat) : Bool := spans.any fun s => s.1 ≤ n && n ≤ s.2
  (if holds pair.1 then [(pair.2, pair.2)] else []) ++
    if holds pair.2 then [(pair.1, pair.1)] else []

/-- The set with the characters that differ from a member by one step of letter case. -/
def withCases (s : Charset) : Charset :=
  let moved := Text.lowercaseRows.toList.flatMap fun (first, last, step, distance) =>
    s.spans.flatMap fun e =>
      moveSpan first last step distance e ++
        moveSpan ((first : Int) + distance).toNat ((last : Int) + distance).toNat step (-distance) e
  ofSpans (s.spans ++ moved ++ casePairs.flatMap (pairSpans s.spans))

/-- The set with all characters that differ from a member by letter case alone. -/
def foldCase (s : Charset) : Charset := s.withCases.withCases.withCases

/-- The set with the ASCII letters of the other case. -/
def foldAsciiCase (s : Charset) : Charset :=
  ofSpans (s.spans ++ s.spans.flatMap fun e =>
    moveSpan 0x41 0x5A 1 32 e ++ moveSpan 0x61 0x7A 1 (-32) e)

end Charset

end Conformance.Pattern
