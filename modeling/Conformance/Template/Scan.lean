import Conformance.Template

/-!
# Reading templates byte by byte

A template is stored as the bytes of its characters in UTF-8. Its variables are found by byte indices:
one index looks for dollar signs, a second one runs along the name behind. Expanding copies the bytes
between the variables, one slice after the other. A slice is a text only if both its ends stand
between two characters; where one stands inside a character, there is no result at all.
-/

namespace Conformance.Template

/-- The byte of a dollar sign. -/
def dollarByte : UInt8 := '$'.toUInt8

/-- Whether a byte may stand in the name of a variable. -/
def isNameByte (b : UInt8) : Bool :=
  ('a'.toUInt8 ≤ b && b ≤ 'z'.toUInt8) || ('A'.toUInt8 ≤ b && b ≤ 'Z'.toUInt8) ||
    ('0'.toUInt8 ≤ b && b ≤ '9'.toUInt8) || b == '_'.toUInt8 || b == '-'.toUInt8

/-- A variable as it is found in a template. -/
structure Token where
  /-- The index of its dollar sign. -/
  start : Nat
  /-- The index behind its name. -/
  stop : Nat
  /-- Its name. -/
  name : String
  deriving DecidableEq, Repr

/-- The first index from `i` on whose byte may not stand in a name. -/
def nameEnd (bytes : ByteArray) (i : Nat) : Nat :=
  if h : i < bytes.size then
    if isNameByte bytes[i] then nameEnd bytes (i + 1) else i
  else i
termination_by bytes.size - i

/-- The text between two indices, if both stand between characters. -/
def slice? (s : String) (start stop : Nat) : Option String :=
  if h : start ≤ stop ∧ String.Pos.Raw.IsValid s ⟨start⟩ ∧ String.Pos.Raw.IsValid s ⟨stop⟩ then
    some (String.extract ⟨⟨start⟩, h.2.1⟩ ⟨⟨stop⟩, h.2.2⟩)
  else none

/-- The variables of a template from an index on. -/
def scan (s : String) (i : Nat) : Option (List Token) :=
  if h : i < s.toByteArray.size then
    if s.toByteArray[i] = dollarByte then
      let stop := nameEnd s.toByteArray (i + 1)
      if hname : i + 1 < stop then
        match slice? s (i + 1) stop, scan s stop with
        | some name, some rest => some (⟨i, stop, name⟩ :: rest)
        | _, _ => none
      else scan s (i + 1)
    else scan s (i + 1)
  else some []
termination_by s.toByteArray.size - i
decreasing_by
  · exact Nat.sub_lt_sub_left h (Nat.lt_of_succ_lt hname)
  · exact Nat.sub_lt_sub_left h (Nat.lt_succ_self i)
  · exact Nat.sub_lt_sub_left h (Nat.lt_succ_self i)

/-- Expand a template whose bytes up to an index have come to a text, and whose variables behind that
index are known. -/
def splice (ctx : Context) (mode : Expansion) (s : String) (out : String) (last : Nat) :
    List Token → Option (Except ExpandError String)
  | [] => (slice? s last s.toByteArray.size).map fun back => .ok (out ++ back)
  | t :: rest =>
      match slice? s last t.start with
      | none => none
      | some front =>
          match ctx.getText t.name, mode with
          | .ok value, _ => splice ctx mode s (out ++ front ++ value) t.stop rest
          | .error e, .strict => some (.error e.toExpandError)
          | .error _, .lenient =>
              match slice? s t.start t.stop with
              | none => none
              | some kept => splice ctx mode s (out ++ front ++ kept) t.stop rest

/-- Expand a template by its bytes; a template without variables is not copied. -/
def expandBytes (ctx : Context) (mode : Expansion) (template : String) :
    Option (Except ExpandError String) :=
  match scan template 0 with
  | none => none
  | some [] => some (.ok template)
  | some tokens => splice ctx mode template "" 0 tokens

end Conformance.Template
