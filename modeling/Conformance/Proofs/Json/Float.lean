import Conformance.Binary64.Shortest
import Conformance.Proofs.Json.Numeral

/-!
# The text of a floating-point number

The shortest decimal text of a number is a numeral in each of its forms (`Decimal.exists_parts`), since
the digits of a number other than zero are not zero (`shortest_digits`). So the text of every number is
scanned in whole and read as some number, or refused as too large (`Number.exists_readsAs`). Which
number it is, is not said: the reader rounds more than once, and the text of some numbers is read as a
neighbour.
-/

namespace Conformance.Binary64

open Json Json.Numeral

/-! ## The digits -/

/-- Trailing zeros are dropped only of digits that are not zero. -/
theorem Decimal.trim_digits {d : Decimal} (h : d.digits ≠ 0) (fuel : Nat) :
    (d.trim fuel).digits ≠ 0 := by
  induction fuel generalizing d with
  | zero => exact h
  | succ fuel ih =>
      unfold Decimal.trim
      split
      next hzero => exact ih (show d.digits / 10 ≠ 0 by omega)
      next => exact h

theorem Decimal.trim_zero (power : Int) (fuel : Nat) :
    Decimal.trim ⟨0, power⟩ fuel = ⟨0, power⟩ := by
  cases fuel <;> rfl

/-- Zero does not round to a number other than zero. -/
theorem neighbourhood_low_pos {x : Binary64} (h : x.mantissa ≠ 0) : 0 < x.neighbourhood.low := by
  have hgap : 0 < 4 * x.mantissa -
      (if x.mantissa = Nat.pow 2 52 ∧ minExponent < x.exponent then 1 else 2) := by
    split <;> omega
  unfold neighbourhood
  by_cases hexponent : 0 ≤ x.exponent
  · rw [if_pos hexponent]
    exact Nat.mul_pos hgap (Nat.pow_pos (by decide))
  · rw [if_neg hexponent]
    exact Nat.mul_pos hgap Nat.one_pos

theorem Neighbourhood.not_holds_zero {n : Neighbourhood} (h : 0 < n.low) (power : Int) :
    n.holds 0 power = false := by
  have hscale : 0 < n.low * Nat.pow 10 (-power).toNat := Nat.mul_pos h (Nat.pow_pos (by decide))
  unfold Neighbourhood.holds
  dsimp only
  rw [Nat.zero_mul, Nat.zero_mul]
  split
  · rw [decide_eq_false (Nat.not_le.mpr hscale), Bool.false_and]
  · rw [decide_eq_false (Nat.not_lt_zero _), Bool.false_and]

theorem Neighbourhood.onGrid?_digits {n : Neighbourhood} (h : 0 < n.low) {power : Int} {d : Decimal}
    (hd : n.onGrid? power = some d) : d.digits ≠ 0 := by
  have hholds : n.holds d.digits power = true := by
    unfold Neighbourhood.onGrid? at hd
    dsimp only at hd
    generalize roundRatio _ _ = near at hd
    generalize (if near = _ then _ else _) = far at hd
    split at hd
    next hnear =>
      cases hd
      exact hnear
    next =>
      split at hd
      next hfar =>
        cases hd
        exact hfar
      next => cases hd
  intro hzero
  rw [hzero, Neighbourhood.not_holds_zero h] at hholds
  cases hholds

theorem Neighbourhood.search_digits {n : Neighbourhood} (h : 0 < n.low) (fuel : Nat) (power : Int) :
    (n.search fuel power).digits ≠ 0 ∨ n.search fuel power = ⟨0, 0⟩ := by
  induction fuel generalizing power with
  | zero =>
      unfold Neighbourhood.search
      cases hd : n.onGrid? power with
      | none => exact .inr rfl
      | some d => exact .inl (Neighbourhood.onGrid?_digits h hd)
  | succ fuel ih =>
      unfold Neighbourhood.search
      cases hd : n.onGrid? power with
      | none => exact ih (power - 1)
      | some d => exact .inl (Neighbourhood.onGrid?_digits h hd)

/-- The digits of a number other than zero are zero only if the search for them has failed. -/
theorem shortest_digits {x : Binary64} (h : x.mantissa ≠ 0) (hzero : x.shortest.digits = 0) :
    x.shortest.power ≤ 0 := by
  unfold shortest at hzero ⊢
  dsimp only at hzero ⊢
  rcases Neighbourhood.search_digits (neighbourhood_low_pos h) 18
    (leadingPower x.neighbourhood.value x.neighbourhood.den 4
      (((Nat.log2 x.neighbourhood.value : Int) - (Nat.log2 x.neighbourhood.den : Int) - 1) * 30103 /
        100000 - 1)) with hdigits | hnone
  · exact absurd hzero (Decimal.trim_digits hdigits 20)
  · rw [hnone, Decimal.trim_zero]

/-! ## The forms of the text -/

theorem isDigit_of_mem_replicate {n : Nat} : ∀ c ∈ List.replicate n '0', Text.isDigit c = true := by
  intro c hc
  rw [List.eq_of_mem_replicate hc]
  rfl

/-- Digits with a point among them are a numeral. -/
theorem exists_parts_point (negative : Bool) {whole fraction : List Char} (hwhole : IsDigits whole)
    (hplain : whole.head? = some '0' → whole.length ≤ 1) (hfraction : IsDigits fraction) :
    ∃ p : Parts, p.chars = signChars negative ++ (whole ++ '.' :: fraction) := by
  refine ⟨⟨negative, whole, some fraction, none, hwhole, hplain, ?_,
    fun _ h => (Option.not_mem_none _ h).elim⟩, ?_⟩
  · rintro _ ⟨⟩
    exact hfraction
  · simp [Parts.chars, fractionChars, exponentChars]

/-- So is a digit with a fraction, if more digits follow it, and an exponent. -/
theorem exists_parts_exponent (negative : Bool) {c : Char} {tail : List Char}
    (h : IsDigits (c :: tail)) (down : Bool) (power : Nat) :
    ∃ p : Parts, p.chars = signChars negative ++ ((if tail = [] then [c] else c :: '.' :: tail) ++
      'e' :: (if down then '-' else '+') :: Text.decimalDigits power) := by
  have hc : IsDigits [c] := isDigits_singleton (h.2 c List.mem_cons_self)
  have hpower : ∀ e ∈ some (down, Text.decimalDigits power), IsDigits e.2 := by
    rintro _ ⟨⟩
    exact isDigits_decimalDigits power
  by_cases htail : tail = []
  · refine ⟨⟨negative, [c], none, some (down, Text.decimalDigits power), hc, fun _ => Nat.le_refl 1,
      fun _ h => (Option.not_mem_none _ h).elim, hpower⟩, ?_⟩
    simp [Parts.chars, fractionChars, exponentChars, htail]
  · refine ⟨⟨negative, [c], some tail, some (down, Text.decimalDigits power), hc,
      fun _ => Nat.le_refl 1, ?_, hpower⟩, ?_⟩
    · rintro _ ⟨⟩
      exact ⟨htail, fun a ha => h.2 a (List.mem_cons_of_mem c ha)⟩
    · simp [Parts.chars, fractionChars, exponentChars, htail]

/-- A decimal is written as a numeral, unless it is zero and zeros would be appended to it. -/
theorem Decimal.exists_parts {d : Decimal} (h : d.digits = 0 → d.power ≤ 0) (negative : Bool) :
    ∃ p : Parts, p.chars = signChars negative ++ d.render := by
  have hds := isDigits_decimalDigits d.digits
  have hplain : (Text.decimalDigits d.digits).head? = some '0' → d.digits = 0 := by
    intro hhead
    by_contra hne
    exact Text.head?_decimalDigits hne hhead
  have hsingle : d.digits = 0 → (Text.decimalDigits d.digits).length = 1 := fun hzero => by
    rw [hzero]
    rfl
  unfold Decimal.render
  dsimp only
  generalize Text.decimalDigits d.digits = ds at hds hplain hsingle ⊢
  generalize hfirst : d.power + ds.length - 1 = first
  split
  next hrange =>
    split
    next hpower =>
      -- digits, then zeros up to the point
      refine exists_parts_point negative (hds.append isDigit_of_mem_replicate) (fun hhead => ?_)
        (isDigits_singleton rfl)
      rw [List.head?_append, Option.or_of_isSome (by simpa using hds.1)] at hhead
      have hzero := hplain hhead
      have hpower' : d.power.toNat = 0 := by
        have := h hzero
        omega
      rw [hpower', List.replicate_zero, List.append_nil, hsingle hzero]
    next hpower =>
      split
      next hpoint =>
        -- the point stands among the digits
        have hlength : first.toNat + 1 < ds.length := by omega
        refine exists_parts_point negative
          ⟨by simp [hds.1], fun c hc => hds.2 c (List.mem_of_mem_take hc)⟩ (fun hhead => ?_)
          ⟨by simpa using hlength, fun c hc => hds.2 c (List.mem_of_mem_drop hc)⟩
        rw [List.head?_take, if_neg (Nat.succ_ne_zero _)] at hhead
        have := hsingle (hplain hhead)
        omega
      next hpoint =>
        -- zeros between the point and the digits
        exact exists_parts_point negative (isDigits_singleton rfl) (fun _ => Nat.le_refl 1)
          ⟨by simp [hds.1], List.forall_mem_append.mpr ⟨isDigit_of_mem_replicate, hds.2⟩⟩
  next hrange =>
    -- one digit before the point, and an exponent
    obtain ⟨c, tail, rfl⟩ := List.exists_cons_of_ne_nil hds.1
    obtain ⟨p, hp⟩ := exists_parts_exponent negative hds (decide (first < 0)) first.natAbs
    refine ⟨p, hp.trans ?_⟩
    cases tail <;> simp

/-- The text of a number is a numeral. -/
theorem exists_parts (x : Binary64) : ∃ p : Parts, x.render.toList = p.chars := by
  have hdecimal : ∃ p : Parts, p.chars = signChars x.negative ++
      (if x.isZero then ['0', '.', '0'] else x.shortest.render) := by
    by_cases hzero : x.mantissa = 0
    · have hbody : ∃ p : Parts, p.chars = signChars x.negative ++ Decimal.render ⟨0, 0⟩ :=
        Decimal.exists_parts (fun _ => Int.le_refl 0) x.negative
      rw [if_pos (by simpa [isZero] using hzero)]
      exact hbody
    · rw [if_neg (by simpa [isZero] using hzero)]
      exact Decimal.exists_parts (shortest_digits hzero) x.negative
  obtain ⟨p, hp⟩ := hdecimal
  refine ⟨p, ?_⟩
  rw [hp, render, String.toList_ofList]
  cases x.negative <;> rfl

end Conformance.Binary64

namespace Conformance.Json

/-- The text of every floating-point number is read as something. -/
theorem Number.exists_readsAs (x : Binary64) : ∃ r, (Number.float x).ReadsAs r := by
  obtain ⟨p, hp⟩ := x.exists_parts
  exact ⟨_, Number.readsAs_parts p hp⟩

/-- The text of this number, `9.6124733873886e+69`, is read as its upper neighbour. -/
example : (scanNumber (Binary64.render ⟨false, 6272431554324374, 180⟩).toList).1 =
    .ok (.float ⟨false, 6272431554324375, 180⟩) := by
  decide +kernel

end Conformance.Json
