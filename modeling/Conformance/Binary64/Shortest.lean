import Conformance.Binary64
import Conformance.Text.Decimal

/-!
# Shortest decimal text

The decimal text of a number has the fewest digits that still read back as the number, and among
texts with that many digits it is the nearest one. It is written positionally when the first digit
stands for a power of ten from `-5` to `15`, always with a fraction digit, and otherwise in
scientific form with a signed exponent.
-/

namespace Conformance.Binary64

/-! ## The digits -/

/-- The decimal digits of `n` and a power of ten: `n * 10 ^ power`. -/
structure Decimal where
  /-- The digits as one whole number. -/
  digits : Nat
  /-- The power of ten of the last digit. -/
  power : Int
  deriving DecidableEq, Repr

/-- The ends of the interval of reals that round to a number, over one denominator, and the number
itself: `low / den ≤ value / den ≤ high / den`. The ends belong to it when `closed`. -/
structure Neighbourhood where
  /-- The lower end. -/
  low : Nat
  /-- The number. -/
  value : Nat
  /-- The upper end. -/
  high : Nat
  /-- The common denominator. -/
  den : Nat
  /-- Whether the ends round to the number as well. -/
  closed : Bool

/-- The reals that round to the magnitude of `x`. The lower neighbour of a power of two is half as
far away as the upper one. -/
def neighbourhood (x : Binary64) : Neighbourhood :=
  let lowGap := if x.mantissa = Nat.pow 2 52 ∧ minExponent < x.exponent then 1 else 2
  let (num, den) :=
    if 0 ≤ x.exponent then (Nat.pow 2 x.exponent.toNat, 4)
    else (1, 4 * Nat.pow 2 (-x.exponent).toNat)
  { low := (4 * x.mantissa - lowGap) * num
    value := 4 * x.mantissa * num
    high := (4 * x.mantissa + 2) * num
    den := den
    closed := x.mantissa % 2 == 0 }

/-- Whether `digits * 10 ^ power` lies in the neighbourhood. -/
def Neighbourhood.holds (n : Neighbourhood) (digits : Nat) (power : Int) : Bool :=
  let p := digits * Nat.pow 10 power.toNat * n.den
  let scale := Nat.pow 10 (-power).toNat
  if n.closed then n.low * scale ≤ p && p ≤ n.high * scale
  else n.low * scale < p && p < n.high * scale

/-- Of the two multiples of `10 ^ power` next to the value, the nearest one in the neighbourhood;
a tie goes to the even multiple. -/
def Neighbourhood.onGrid? (n : Neighbourhood) (power : Int) : Option Decimal :=
  let num := n.value * Nat.pow 10 (-power).toNat
  let den := n.den * Nat.pow 10 power.toNat
  let below := num / den
  let near := Binary64.roundRatio num den
  let far := if near = below then below + 1 else below
  if n.holds near power then some ⟨near, power⟩
  else if n.holds far power then some ⟨far, power⟩
  else none

/-- The power of ten of the first digit of `num / den`, counting up from `power` while the ratio
reaches the next one. -/
def leadingPower (num den : Nat) : Nat → Int → Int
  | 0, power => power
  | fuel + 1, power =>
      let next := power + 1
      if den * Nat.pow 10 next.toNat ≤ num * Nat.pow 10 (-next).toNat then
        leadingPower num den fuel next
      else power

/-- The first grid with a hit, from the coarsest of the given number on. -/
def Neighbourhood.search (n : Neighbourhood) : Nat → Int → Decimal
  | 0, power => (n.onGrid? power).getD ⟨0, 0⟩
  | fuel + 1, power => (n.onGrid? power).getD (n.search fuel (power - 1))

/-- Drop trailing zeros of the digits. -/
def Decimal.trim (d : Decimal) : Nat → Decimal
  | 0 => d
  | fuel + 1 =>
      if d.digits ≠ 0 ∧ d.digits % 10 = 0 then Decimal.trim ⟨d.digits / 10, d.power + 1⟩ fuel else d

/-- The shortest decimal of the magnitude of a number other than zero: grids from one digit to
seventeen are tried in turn. -/
def shortest (x : Binary64) : Decimal :=
  let n := x.neighbourhood
  let bits : Int := (Nat.log2 n.value : Int) - (Nat.log2 n.den : Int)
  let start := (bits - 1) * 30103 / 100000 - 1
  (n.search 18 (leadingPower n.value n.den 4 start)).trim 20

/-! ## The text -/

/-- The text of a decimal. -/
def Decimal.render (d : Decimal) : List Char :=
  let ds := Text.decimalDigits d.digits
  let first : Int := d.power + ds.length - 1
  if -5 ≤ first ∧ first ≤ 15 then
    if 0 ≤ d.power then ds ++ List.replicate d.power.toNat '0' ++ ['.', '0']
    else if 0 ≤ first then
      let whole := first.toNat + 1
      ds.take whole ++ '.' :: ds.drop whole
    else '0' :: '.' :: (List.replicate (-first - 1).toNat '0' ++ ds)
  else
    let mantissa := match ds with
      | c :: [] => [c]
      | c :: rest => c :: '.' :: rest
      | [] => []
    let sign := if first < 0 then '-' else '+'
    mantissa ++ 'e' :: sign :: Text.decimalDigits first.natAbs

/-- The decimal text of a number. -/
def render (x : Binary64) : String :=
  let body := if x.isZero then ['0', '.', '0'] else x.shortest.render
  String.ofList (if x.negative then '-' :: body else body)

end Conformance.Binary64
