/-!
# Binary64 numbers

Finite floating-point numbers with a 53-bit mantissa, as exact dyadic values. Every operation
computes in whole numbers and rounds once, to the nearest representable number, a tie going to the
even mantissa.
-/

namespace Conformance

/-- The number `mantissa * 2 ^ exponent`, negated when `negative`. -/
structure Binary64 where
  /-- The sign; zero has one too. -/
  negative : Bool
  /-- Below `2 ^ 53`, and at least `2 ^ 52` unless the exponent is the least one. -/
  mantissa : Nat
  /-- At least `Binary64.minExponent`. -/
  exponent : Int
  deriving DecidableEq, Repr

namespace Binary64

/-- The exponent of the smallest positive number. -/
def minExponent : Int := -1074

/-- The exponent of the largest finite number. -/
def maxExponent : Int := 971

/-- Zero with the given sign. -/
def zero (negative : Bool) : Binary64 := ⟨negative, 0, minExponent⟩

instance : Inhabited Binary64 := ⟨zero false⟩

/-- Whether the number is zero, of either sign. -/
def isZero (x : Binary64) : Bool := x.mantissa == 0

/-! ## Rounding -/

/-- `num / den` rounded to the nearest whole number, a tie to the even one. -/
def roundRatio (num den : Nat) : Nat :=
  let q := num / den
  let r := num % den
  if 2 * r < den then q
  else if den < 2 * r then q + 1
  else if q % 2 = 0 then q else q + 1

/-- `num / den` divided by `2 ^ e`, as a numerator and a denominator. -/
def scaleDown (num den : Nat) (e : Int) : Nat × Nat :=
  if 0 ≤ e then (num, den * Nat.pow 2 e.toNat) else (num * Nat.pow 2 (-e).toNat, den)

/-- The exponent with which the positive ratio `num / den` has a mantissa of 53 bits, or the least
exponent where that one would be smaller. -/
def ratioExponent (num den : Nat) : Int :=
  let guess : Int := (Nat.log2 num : Int) - (Nat.log2 den : Int) - 52
  let (n, d) := scaleDown num den guess
  let exact := if n < d * Nat.pow 2 52 then guess - 1 else guess
  if exact < minExponent then minExponent else exact

/-- The number nearest to `num / den` with the given sign, or nothing when it is too large. -/
def ofRatio? (negative : Bool) (num den : Nat) : Option Binary64 :=
  if num = 0 then some (zero negative)
  else
    let e := ratioExponent num den
    let (n, d) := scaleDown num den e
    let m := roundRatio n d
    let (m, e) := if m = Nat.pow 2 53 then (Nat.pow 2 52, e + 1) else (m, e)
    if maxExponent < e then none else some ⟨negative, m, e⟩

/-- The number nearest to `n`; a whole number below `2 ^ 1024` has one. -/
def ofNat (n : Nat) : Binary64 := (ofRatio? false n 1).getD (zero false)

/-- The number nearest to `10 ^ k`, for `k` at most 308. -/
def powerOfTen (k : Nat) : Binary64 := ofNat (Nat.pow 10 k)

/-! ## Arithmetic -/

/-- The magnitude as a ratio of whole numbers. -/
def ratio (x : Binary64) : Nat × Nat :=
  if 0 ≤ x.exponent then (x.mantissa * Nat.pow 2 x.exponent.toNat, 1)
  else (x.mantissa, Nat.pow 2 (-x.exponent).toNat)

/-- The product, or nothing when it is too large. -/
def mul? (x y : Binary64) : Option Binary64 :=
  let (a, b) := x.ratio
  let (c, d) := y.ratio
  ofRatio? (x.negative != y.negative) (a * c) (b * d)

/-- The quotient by a number other than zero, or nothing when it is too large. -/
def div? (x y : Binary64) : Option Binary64 :=
  let (a, b) := x.ratio
  let (c, d) := y.ratio
  ofRatio? (x.negative != y.negative) (a * d) (b * c)

/-- The number with the other sign. -/
def neg (x : Binary64) : Binary64 := { x with negative := !x.negative }

/-- The whole number that `x` equals, if it equals one. -/
def toInt? (x : Binary64) : Option Int :=
  let (n, d) := x.ratio
  if n % d = 0 then some (if x.negative then -((n / d : Nat) : Int) else ((n / d : Nat) : Int))
  else none

/-- The order of `x` against a whole number. -/
def compareInt (x : Binary64) (i : Int) : Ordering :=
  let (n, d) := x.ratio
  compare (if x.negative then -(n : Int) else (n : Int)) (i * (d : Int))

/-- The order of two numbers; the two zeros are equal. -/
def compareTo (x y : Binary64) : Ordering :=
  let (a, b) := x.ratio
  let (c, d) := y.ratio
  compare ((if x.negative then -(a : Int) else (a : Int)) * (d : Int))
    ((if y.negative then -(c : Int) else (c : Int)) * (b : Int))

end Binary64

end Conformance
