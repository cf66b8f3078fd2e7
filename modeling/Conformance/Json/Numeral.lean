import Conformance.Json
import Conformance.Text.Decimal

/-!
# JSON numerals

Reading a number's text. Whole numbers that fit are exact. Any other number is computed from the
digits that fit an unsigned 64-bit significand, the remaining ones only counting for the exponent,
with one rounded multiplication or division by a power of ten; below `10 ^ -308` the significand is
first divided by `10 ^ 308` as often as needed.
-/

namespace Conformance.Json

/-- Why a text is refused. -/
inductive Problem where
  /-- The text is no JSON, or goes on after the value. -/
  | malformed
  /-- The text is JSON so far, but not of the wanted kind. -/
  | mismatch
  /-- The text ends too early. -/
  | truncated
  deriving DecidableEq, Repr

/-- The message of a refused text. -/
def Problem.message : Problem → String
  | .malformed => "not valid JSON"
  | .mismatch => "unexpected value"
  | .truncated => "text ends too early"

namespace Numeral

/-- The largest significand. -/
def significandLimit : Nat := Nat.pow 2 64 - 1

/-- The largest magnitude of an exponent that is kept. -/
def exponentLimit : Nat := Nat.pow 2 31 - 1

/-- Append digits to a significand while the result stays within the limit: the significand, the
number of digits taken and whether all of them were. -/
def gather (significand : Nat) : List Char → Nat × Nat × Bool
  | [] => (significand, 0, true)
  | c :: rest =>
      let next := significand * 10 + Text.digitValue c
      if significandLimit < next then (significand, 0, false)
      else
        let (s, n, all) := gather next rest
        (s, n + 1, all)

/-- `f / 10 ^ e`, in steps of at most 308. -/
def divideByPower (f : Binary64) (e : Nat) : Binary64 :=
  if e ≤ 308 then (f.div? (.powerOfTen e)).getD f
  else if f.isZero then f
  else divideByPower ((f.div? (.powerOfTen 308)).getD f) (e - 308)
termination_by e

/-- `significand * 10 ^ exponent`, or nothing when it is too large. -/
def assemble? (significand : Nat) (exponent : Int) : Option Binary64 :=
  let f := Binary64.ofNat significand
  match exponent with
  | .ofNat e =>
      if e ≤ 308 then f.mul? (.powerOfTen e)
      else if f.isZero then some f
      else none
  | .negSucc e => some (divideByPower f (e + 1))

/-- A floating-point result with its sign, or the refusal of a number that is too large. -/
def signed (negative : Bool) : Option Binary64 → Except Problem Number
  | none => .error .malformed
  | some x => .ok (.float (if negative then x.neg else x))

/-- An exponent clipped to what is kept. -/
def clipExponent (e : Int) : Int :=
  if (exponentLimit : Int) < e then exponentLimit
  else if e < -(exponentLimit : Int) - 1 then -(exponentLimit : Int) - 1
  else e

/-- The value of a numeral from its parts: the digits of the whole part, those of the fraction, and
the sign and digits of the exponent. -/
def value (negative : Bool) (whole : List Char) (fraction : Option (List Char))
    (exponent : Option (Bool × List Char)) : Except Problem Number :=
  let (s, taken, fits) := gather 0 whole
  let dropped : Int := whole.length - taken
  match fraction, exponent with
  | none, none =>
      if !fits then signed negative (assemble? s dropped)
      else if !negative then .ok (.int s)
      else if s = 0 || Nat.pow 2 63 < s then signed true (some (.ofNat s))
      else .ok (.int (-(s : Int)))
  | fraction, exponent =>
      let (s, fractionTaken, _) := gather s (fraction.getD [])
      let start := dropped - fractionTaken
      match exponent with
      | none => signed negative (assemble? s start)
      | some (down, digits) =>
          let e := Text.digitsValue digits
          if exponentLimit < e then
            if s ≠ 0 && !down then .error .malformed
            else .ok (.float (.zero negative))
          else signed negative (assemble? s (clipExponent (if down then start - e else start + e)))

end Numeral

/-- A numeral at the front of a text: its value, and separately what follows it. The two differ in
the refusals: a numeral that only breaks off is truncated as a value, while skipping over it calls
it malformed, and skipping does not mind a number that is too large. -/
def scanNumber (cs : List Char) : Except Problem Number × Except Problem (List Char) :=
  let (negative, cs) := match cs with
    | '-' :: rest => (true, rest)
    | cs => (false, cs)
  let refuse (rest : List Char) : Except Problem Number × Except Problem (List Char) :=
    (.error (if rest.isEmpty then .truncated else .malformed), .error .malformed)
  let whole := cs.takeWhile Text.isDigit
  let rest := cs.dropWhile Text.isDigit
  if whole.isEmpty then refuse rest
  else if whole.head? = some '0' && 1 < whole.length then (.error .malformed, .error .malformed)
  else
    let (fraction, rest) := match rest with
      | '.' :: rest => (some (rest.takeWhile Text.isDigit), rest.dropWhile Text.isDigit)
      | rest => (none, rest)
    if fraction = some [] then refuse rest
    else
      let (down, digits, rest) := match rest with
        | c :: rest =>
            if c = 'e' || c = 'E' then
              let (down, rest) := match rest with
                | '-' :: rest => (true, rest)
                | '+' :: rest => (false, rest)
                | rest => (false, rest)
              (down, some (rest.takeWhile Text.isDigit), rest.dropWhile Text.isDigit)
            else (false, none, c :: rest)
        | [] => (false, none, [])
      if digits = some [] then refuse rest
      else (Numeral.value negative whole fraction (digits.map fun ds => (down, ds)), .ok rest)

end Conformance.Json
