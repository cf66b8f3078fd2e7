import Conformance.Text.Decimal
import Mathlib.Tactic.IntervalCases

/-!
# Reading back decimal numerals

The decimal digits of a number are digits, without leading zeros, and they are read as the number
(`readDecimal?_decimalDigits`). With zeros in front they are still read as the number, and there are no
more of these than the width asks for (`padded_paddedDecimal`).
-/

namespace Conformance.Text

theorem isDigit_eq (c : Char) : isDigit c = c.isDigit := by
  rw [Bool.eq_iff_iff]
  simp [isDigit, Char.isDigit, Char.le_def]

theorem isDigit_of_mem_decimalDigits {n : Nat} {c : Char} (h : c ∈ decimalDigits n) :
    isDigit c = true := by
  rw [isDigit_eq]
  exact Nat.isDigit_of_mem_toDigits (by decide) (by decide) h

/-- Only the digits of zero begin with a zero. -/
theorem head?_decimalDigits {n : Nat} (h : n ≠ 0) : (decimalDigits n).head? ≠ some '0' := by
  unfold decimalDigits
  induction n using Nat.strongRecOn with
  | ind n ih =>
      rcases Nat.lt_or_ge n 10 with hn | hn
      · rw [Nat.toDigits_of_lt_base hn]
        interval_cases n
        · exact absurd rfl h
        all_goals decide
      · rw [Nat.toDigits_of_base_le (by decide) hn, List.head?_append,
          Option.or_of_isSome (by simp)]
        exact ih (n / 10) (by omega) (by omega)

theorem digitsValue_eq (ds : List Char) : digitsValue ds = Nat.ofDigitChars 10 ds 0 := by
  simp only [digitsValue, Nat.ofDigitChars, digitValue, Nat.mul_comm]

theorem digitsValue_decimalDigits (n : Nat) : digitsValue (decimalDigits n) = n := by
  rw [digitsValue_eq]
  exact Nat.ofDigitChars_ten_toDigits

/-- Digits are read as their value. -/
theorem readDecimal?_of_digits {ds : List Char} (hne : ds ≠ [])
    (hdigits : ∀ c ∈ ds, isDigit c = true) : readDecimal? ds = some (digitsValue ds) := by
  rw [readDecimal?, List.isEmpty_eq_false_iff.mpr hne, List.all_eq_true.mpr hdigits]
  rfl

theorem readDecimal?_decimalDigits (n : Nat) : readDecimal? (decimalDigits n) = some n := by
  have hne : decimalDigits n ≠ [] := Nat.toDigits_ne_nil
  rw [readDecimal?_of_digits hne fun c => isDigit_of_mem_decimalDigits, digitsValue_decimalDigits]

/-! ## Zeros in front -/

theorem toList_paddedDecimal (width n : Nat) :
    (paddedDecimal width n).toList =
      List.replicate (width - (decimalDigits n).length) '0' ++ decimalDigits n := by
  rw [paddedDecimal, String.toList_ofList]

theorem isDigit_of_mem_paddedDecimal {width n : Nat} {c : Char}
    (h : c ∈ (paddedDecimal width n).toList) : isDigit c = true := by
  rw [toList_paddedDecimal] at h
  rcases List.mem_append.mp h with h | h
  · rw [List.eq_of_mem_replicate h]
    decide
  · exact isDigit_of_mem_decimalDigits h

theorem paddedDecimal_ne_nil (width n : Nat) : (paddedDecimal width n).toList ≠ [] := by
  rw [toList_paddedDecimal]
  apply List.append_ne_nil_of_right_ne_nil
  exact Nat.toDigits_ne_nil

theorem digitsValue_paddedDecimal (width n : Nat) :
    digitsValue (paddedDecimal width n).toList = n := by
  rw [digitsValue_eq, toList_paddedDecimal, Nat.ofDigitChars_append,
    Nat.ofDigitChars_replicate_zero, Nat.mul_zero]
  exact Nat.ofDigitChars_ten_toDigits

theorem readDecimal?_paddedDecimal (width n : Nat) :
    readDecimal? (paddedDecimal width n).toList = some n := by
  rw [readDecimal?_of_digits (paddedDecimal_ne_nil width n) fun c => isDigit_of_mem_paddedDecimal,
    digitsValue_paddedDecimal]

/-- A number is written in decimal digits, with zeros in front up to a least number of digits. -/
structure Padded (width n : Nat) (ds : List Char) : Prop where
  /-- The digits are read as the number. -/
  reads : readDecimal? ds = some n
  /-- There are not fewer than wanted. -/
  wide : width ≤ ds.length
  /-- Where there are more than wanted, the first is not a zero. -/
  tight : width < ds.length → ds.head? ≠ some '0'

theorem padded_paddedDecimal (width : Nat) {n : Nat} (h : n ≠ 0) :
    Padded width n (paddedDecimal width n).toList where
  reads := readDecimal?_paddedDecimal width n
  wide := by
    rw [toList_paddedDecimal, List.length_append, List.length_replicate]
    omega
  tight := by
    intro hlong
    rw [toList_paddedDecimal, List.length_append, List.length_replicate] at hlong
    have hnone : width - (decimalDigits n).length = 0 := by omega
    rw [toList_paddedDecimal, hnone, List.replicate_zero, List.nil_append]
    exact head?_decimalDigits h

end Conformance.Text
