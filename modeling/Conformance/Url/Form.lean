import Conformance.KeyMap
import Conformance.Text.Percent
import Conformance.Text.Split

/-!
# Forms

Pairs of texts as one text: keys and values are joined by equals signs and pairs by ampersands, a
space is written as a plus sign, and all but letters, digits and four marks are percent-encoded.
-/

namespace Conformance.Form

/-- Whether `c` stands for itself. -/
def isPlain (c : Char) : Bool :=
  c.isAlphanum || c == '*' || c == '-' || c == '.' || c == '_'

/-- A key or value as it is written. -/
def encodePart (cs : List Char) : List Char :=
  cs.flatMap fun c =>
    if c = ' ' then ['+']
    else if isPlain c then [c] else (Text.Utf8.encodeChar c).flatMap Text.Percent.encodeByte

/-- A pair as it is written. -/
def encodePair (pair : String × String) : List Char :=
  encodePart pair.1.toList ++ '=' :: encodePart pair.2.toList

/-- Pairs as they are written. -/
def encodePairs (pairs : List (String × String)) : List Char :=
  ['&'].intercalate (pairs.map encodePair)

/-- Pairs as one text. -/
def encode (pairs : List (String × String)) : String := String.ofList (encodePairs pairs)

/-- The text of a key or value. -/
def decodePart (cs : List Char) : String :=
  String.ofList (Text.Utf8.decodeLossy
    (Text.Percent.decode (cs.map fun c => if c = '+' then ' ' else c)))

/-- The pair that a part of a form stands for. -/
def decodePair (cs : List Char) : String × String :=
  match Text.splitOnce '=' cs with
  | none => (decodePart cs, "")
  | some (key, value) => (decodePart key, decodePart value)

/-- The pairs of a form; empty parts say nothing. -/
def decode (form : String) : List (String × String) :=
  ((Text.splitOn '&' form.toList).filter (!·.isEmpty)).map decodePair

end Conformance.Form
