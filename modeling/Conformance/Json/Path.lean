import Conformance.Json
import Conformance.Text.Decimal
import Conformance.Text.Split

/-!
# Paths into JSON values

A path is a text of segments separated by dots. A segment names a member of an object or counts an
item of an array from zero; as the last segment, `#` asks for the length of an array. The empty path
leads to the value itself.
-/

namespace Conformance.Json

/-- The index that a segment spells: digits, after a plus sign if there is one. -/
def index? (segment : List Char) : Option Nat :=
  match segment with
  | '+' :: digits => Text.readDecimal? digits
  | digits => Text.readDecimal? digits

/-- Follow segments from a value. -/
def follow : Json → List (List Char) → Option Json
  | v, [] => some v
  | .array items, segment :: rest =>
      if segment = ['#'] then
        if rest.isEmpty then some (.nat items.length) else none
      else
        match index? segment with
        | none => none
        | some i =>
            match items[i]? with
            | none => none
            | some v => follow v rest
  | .object members, segment :: rest =>
      match (Json.object members).member? (String.ofList segment) with
      | none => none
      | some v => follow v rest
  | _, _ :: _ => none

/-- The segments of a path. -/
def segments (path : List Char) : List (List Char) :=
  if path.isEmpty then [] else Text.splitOn '.' path

/-- The value that a path leads to. -/
def lookup (v : Json) (path : String) : Option Json := v.follow (segments path.toList)

end Conformance.Json
