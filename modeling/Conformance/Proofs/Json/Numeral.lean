import Conformance.Json.Numeral
import Conformance.Json.Render
import Conformance.Proofs.Text.Decimal

/-!
# Reading the text of a number

A numeral consists of a sign, the digits of its whole part and, if it has them, those of a fraction and
of an exponent (`Numeral.Parts`). Scanned in front of what does not go on with it, it is taken in whole
and read as the value of its parts (`scanNumber_parts`). Whole numbers in range are read back from their
text (`readsBack_nat`, `readsBack_negSucc`).
-/

namespace Conformance.Json

/-! ## Digits -/

/-- One digit or more. -/
def IsDigits (ds : List Char) : Prop := ds ≠ [] ∧ ∀ c ∈ ds, Text.isDigit c = true

theorem isDigits_decimalDigits (n : Nat) : IsDigits (Text.decimalDigits n) :=
  ⟨Nat.toDigits_ne_nil, fun _ => Text.isDigit_of_mem_decimalDigits⟩

theorem isDigits_singleton {c : Char} (h : Text.isDigit c = true) : IsDigits [c] :=
  ⟨List.cons_ne_nil c [], List.forall_mem_singleton.mpr h⟩

theorem IsDigits.append {ds ds' : List Char} (h : IsDigits ds)
    (h' : ∀ c ∈ ds', Text.isDigit c = true) : IsDigits (ds ++ ds') :=
  ⟨by simp [h.1], List.forall_mem_append.mpr ⟨h.2, h'⟩⟩

/-- The digits in front of a text that does not go on with one. -/
theorem IsDigits.span {ds tail : List Char} (h : IsDigits ds)
    (htail : ∀ c ∈ tail.head?, Text.isDigit c = false) :
    (ds ++ tail).takeWhile Text.isDigit = ds ∧ (ds ++ tail).dropWhile Text.isDigit = tail := by
  rw [List.takeWhile_append_of_pos h.2, List.dropWhile_append_of_pos h.2]
  cases tail with
  | nil => simp
  | cons c tail => simp [htail c rfl]

/-! ## Cutting a numeral -/

namespace Numeral

/-- The sign in front of a text, and what follows it. -/
def cutSign : List Char → Bool × List Char
  | '-' :: rest => (true, rest)
  | cs => (false, cs)

/-- The digits of a fraction in front of a text, if there is one, and what follows it. -/
def cutFraction : List Char → Option (List Char) × List Char
  | '.' :: rest => (some (rest.takeWhile Text.isDigit), rest.dropWhile Text.isDigit)
  | rest => (none, rest)

/-- The sign in front of the digits of an exponent, and what follows it. -/
def cutExponentSign : List Char → Bool × List Char
  | '-' :: rest => (true, rest)
  | '+' :: rest => (false, rest)
  | rest => (false, rest)

/-- The sign and the digits of an exponent in front of a text, if there is one, and what follows it. -/
def cutExponent : List Char → Bool × Option (List Char) × List Char
  | c :: rest =>
      if c = 'e' || c = 'E' then
        let (down, rest) := cutExponentSign rest
        (down, some (rest.takeWhile Text.isDigit), rest.dropWhile Text.isDigit)
      else (false, none, c :: rest)
  | [] => (false, none, [])

/-- The refusal of a numeral that breaks off in front of a text. -/
def refused (rest : List Char) : Except Problem Number × Except Problem (List Char) :=
  (.error (if rest.isEmpty then .truncated else .malformed), .error .malformed)

/-- A numeral is cut part by part. -/
theorem scanNumber_cut (cs : List Char) : scanNumber cs =
    (let (negative, cs) := cutSign cs
    let whole := cs.takeWhile Text.isDigit
    let rest := cs.dropWhile Text.isDigit
    if whole.isEmpty then refused rest
    else if whole.head? = some '0' && 1 < whole.length then (.error .malformed, .error .malformed)
    else
      let (fraction, rest) := cutFraction rest
      if fraction = some [] then refused rest
      else
        let (down, digits, rest) := cutExponent rest
        if digits = some [] then refused rest
        else (value negative whole fraction (digits.map fun ds => (down, ds)), .ok rest)) :=
  rfl

/-! ## Numerals by their parts -/

/-- The parts of a numeral. -/
structure Parts where
  /-- Whether there is a minus sign. -/
  negative : Bool
  /-- The digits of the whole part. -/
  whole : List Char
  /-- The digits of the fraction. -/
  fraction : Option (List Char)
  /-- Whether the exponent has a minus sign, and its digits. -/
  exponent : Option (Bool × List Char)
  whole_digits : IsDigits whole
  /-- The whole part does not begin with a zero that could be left out. -/
  whole_plain : whole.head? = some '0' → whole.length ≤ 1
  fraction_digits : ∀ ds ∈ fraction, IsDigits ds
  exponent_digits : ∀ e ∈ exponent, IsDigits e.2

/-- A sign as it is written. -/
def signChars (negative : Bool) : List Char := if negative then ['-'] else []

/-- A fraction as it is written. -/
def fractionChars : Option (List Char) → List Char
  | none => []
  | some ds => '.' :: ds

/-- An exponent as it is written, always with a sign. -/
def exponentChars : Option (Bool × List Char) → List Char
  | none => []
  | some (down, ds) => 'e' :: (if down then '-' else '+') :: ds

/-- A numeral as it is written. -/
def Parts.chars (p : Parts) : List Char :=
  signChars p.negative ++ (p.whole ++ (fractionChars p.fraction ++ exponentChars p.exponent))

end Numeral

/-- What may stand behind a value: nothing that a numeral could go on with. -/
def Stops (rest : List Char) : Prop :=
  ∀ c ∈ rest.head?, Text.isDigit c = false ∧ c ≠ '.' ∧ c ≠ 'e' ∧ c ≠ 'E'

namespace Numeral

theorem cutSign_signChars (negative : Bool) {ds tail : List Char} (h : IsDigits ds) :
    cutSign (signChars negative ++ (ds ++ tail)) = (negative, ds ++ tail) := by
  cases negative with
  | true => rfl
  | false =>
      obtain ⟨hne, hdigits⟩ := h
      obtain ⟨c, cs, rfl⟩ := List.exists_cons_of_ne_nil hne
      have hc : c ≠ '-' := by
        rintro rfl
        exact absurd (hdigits '-' List.mem_cons_self) (by decide)
      unfold signChars cutSign
      split
      next heq => exact absurd (List.cons.inj heq).1 hc
      next => rfl

theorem cutExponent_exponentChars {exponent : Option (Bool × List Char)} {rest : List Char}
    (h : ∀ e ∈ exponent, IsDigits e.2) (hrest : Stops rest) : ∃ down digits,
      cutExponent (exponentChars exponent ++ rest) = (down, digits, rest) ∧ digits ≠ some [] ∧
        (digits.map fun ds => (down, ds)) = exponent := by
  cases exponent with
  | none =>
      refine ⟨false, none, ?_, nofun, rfl⟩
      cases rest with
      | nil => rfl
      | cons c rest =>
          obtain ⟨-, -, he, hE⟩ := hrest c rfl
          simp [exponentChars, cutExponent, he, hE]
  | some e =>
      obtain ⟨down, ds⟩ := e
      obtain ⟨hfront, hback⟩ := (h _ rfl).span fun c hc => (hrest c hc).1
      have hcut : cutExponent (exponentChars (some (down, ds)) ++ rest) =
          (down, some ((ds ++ rest).takeWhile Text.isDigit),
            (ds ++ rest).dropWhile Text.isDigit) := by
        cases down <;> rfl
      refine ⟨down, some ds, by rw [hcut, hfront, hback], fun hnil => ?_, rfl⟩
      exact (h _ rfl).1 (Option.some.inj hnil)

/-- An exponent or the end of a numeral is no digit and no point. -/
theorem head?_exponentChars {exponent : Option (Bool × List Char)} {rest : List Char}
    (hrest : Stops rest) : ∀ c ∈ (exponentChars exponent ++ rest).head?,
      Text.isDigit c = false ∧ c ≠ '.' := by
  intro c hc
  cases exponent with
  | none => exact ⟨(hrest c hc).1, (hrest c hc).2.1⟩
  | some e =>
      obtain rfl : 'e' = c := Option.some.inj hc
      decide

theorem cutFraction_fractionChars {fraction : Option (List Char)} {tail : List Char}
    (h : ∀ ds ∈ fraction, IsDigits ds)
    (htail : ∀ c ∈ tail.head?, Text.isDigit c = false ∧ c ≠ '.') :
    cutFraction (fractionChars fraction ++ tail) = (fraction, tail) := by
  cases fraction with
  | none =>
      unfold fractionChars cutFraction
      split
      next heq =>
        rw [List.nil_append] at heq
        exact absurd rfl (htail '.' (by rw [heq]; rfl)).2
      next => rfl
  | some ds =>
      obtain ⟨hfront, hback⟩ := (h ds rfl).span fun c hc => (htail c hc).1
      show (some ((ds ++ tail).takeWhile Text.isDigit), (ds ++ tail).dropWhile Text.isDigit) = _
      rw [hfront, hback]

theorem head?_fractionChars {fraction : Option (List Char)} {tail : List Char}
    (htail : ∀ c ∈ tail.head?, Text.isDigit c = false ∧ c ≠ '.') :
    ∀ c ∈ (fractionChars fraction ++ tail).head?, Text.isDigit c = false := by
  intro c hc
  cases fraction with
  | none => exact (htail c hc).1
  | some ds =>
      obtain rfl : '.' = c := Option.some.inj hc
      decide

/-- A numeral is read as the value of its parts, up to what does not go on with it. -/
theorem scanNumber_parts (p : Parts) {rest : List Char} (hrest : Stops rest) :
    scanNumber (p.chars ++ rest) =
      (value p.negative p.whole p.fraction p.exponent, .ok rest) := by
  obtain ⟨negative, whole, fraction, exponent, hwhole, hplain, hfraction, hexponent⟩ := p
  have hassoc : Parts.chars ⟨negative, whole, fraction, exponent, hwhole, hplain, hfraction,
      hexponent⟩ ++ rest = signChars negative ++ (whole ++
        (fractionChars fraction ++ (exponentChars exponent ++ rest))) := by
    simp only [Parts.chars, List.append_assoc]
  obtain ⟨hfront, hback⟩ := hwhole.span (head?_fractionChars (head?_exponentChars hrest))
  obtain ⟨down, digits, hcut, hdigits, hexponent'⟩ := cutExponent_exponentChars hexponent hrest
  have hzero : ¬ (whole.head? = some '0' && 1 < whole.length) = true := by
    intro h
    rw [Bool.and_eq_true, decide_eq_true_eq, decide_eq_true_eq] at h
    exact Nat.not_lt.mpr (hplain h.1) h.2
  have hfraction' : fraction ≠ some [] := fun h => (hfraction [] h).1 rfl
  rw [hassoc, scanNumber_cut, cutSign_signChars negative hwhole]
  dsimp only
  rw [hfront, hback, cutFraction_fractionChars hfraction (head?_exponentChars hrest)]
  dsimp only
  rw [hcut, if_neg (by simpa using hwhole.1), if_neg hzero, if_neg hfraction']
  dsimp only
  rw [if_neg hdigits, hexponent']

end Numeral

/-! ## Numbers -/

/-- A number whose text is read as something. -/
structure Number.ReadsAs (n : Number) (r : Except Problem Number) : Prop where
  begins : ∃ c cs, n.chars = c :: cs ∧ (c = '-' ∨ Text.isDigit c = true)
  scan : ∀ rest, Stops rest → scanNumber (n.chars ++ rest) = (r, .ok rest)

/-- A number that is read back from its text. -/
abbrev Number.ReadsBack (n : Number) : Prop := n.ReadsAs (.ok n)

/-- A number that is written as a numeral is read as the value of its parts. -/
theorem Number.readsAs_parts {n : Number} (p : Numeral.Parts) (h : n.chars = p.chars) :
    n.ReadsAs (Numeral.value p.negative p.whole p.fraction p.exponent) where
  begins := by
    obtain ⟨hne, hdigits⟩ := p.whole_digits
    obtain ⟨c, cs, hwhole⟩ := List.exists_cons_of_ne_nil hne
    rw [hwhole] at hdigits
    rw [h, Numeral.Parts.chars, hwhole]
    cases p.negative with
    | true => exact ⟨_, _, rfl, .inl rfl⟩
    | false => exact ⟨_, _, rfl, .inr (hdigits c List.mem_cons_self)⟩
  scan rest hrest := by
    rw [h]
    exact Numeral.scanNumber_parts p hrest

/-! ## Whole numbers -/

/-- Digits whose number is within the limit are all gathered. -/
theorem gather_all {s : Nat} {cs : List Char}
    (h : Nat.ofDigitChars 10 cs s ≤ Numeral.significandLimit) :
    Numeral.gather s cs = (Nat.ofDigitChars 10 cs s, cs.length, true) := by
  induction cs generalizing s with
  | nil => rfl
  | cons c rest ih =>
      have hnext : Nat.ofDigitChars 10 (c :: rest) s =
          Nat.ofDigitChars 10 rest (s * 10 + Text.digitValue c) := by
        rw [Nat.mul_comm]
        rfl
      rw [hnext] at h ⊢
      have hle : s * 10 + Text.digitValue c ≤ Numeral.significandLimit := by
        rw [Nat.ofDigitChars_eq_ofDigitChars_zero] at h
        have hpow := Nat.le_mul_of_pos_left (s * 10 + Text.digitValue c)
          (Nat.pow_pos (n := rest.length) (show 0 < 10 by decide))
        omega
      unfold Numeral.gather
      dsimp only
      rw [if_neg (Nat.not_lt.mpr hle), ih h]
      rfl

theorem gather_decimalDigits {n : Nat} (h : n < 2 ^ 64) :
    Numeral.gather 0 (Text.decimalDigits n) = (n, (Text.decimalDigits n).length, true) := by
  have hvalue : Nat.ofDigitChars 10 (Text.decimalDigits n) 0 = n := Nat.ofDigitChars_ten_toDigits
  have hlimit : Nat.ofDigitChars 10 (Text.decimalDigits n) 0 ≤ Numeral.significandLimit := by
    rw [hvalue]
    exact Nat.le_sub_one_of_lt h
  rw [gather_all hlimit, hvalue]

/-- A whole number as a numeral. -/
def wholeParts (negative : Bool) (n : Nat) : Numeral.Parts where
  negative := negative
  whole := Text.decimalDigits n
  fraction := none
  exponent := none
  whole_digits := isDigits_decimalDigits n
  whole_plain hhead := by
    by_cases hn : n = 0
    · subst hn
      decide
    · exact absurd hhead (Text.head?_decimalDigits hn)
  fraction_digits := nofun
  exponent_digits := nofun

/-- A whole number in range is read back. -/
theorem readsBack_nat {n : Nat} (h : n < 2 ^ 64) : (Number.int n).ReadsBack := by
  have hread : (Number.int n).ReadsAs (Numeral.value false (Text.decimalDigits n) none none) :=
    Number.readsAs_parts (wholeParts false n) (List.append_nil (Text.decimalDigits n)).symm
  have hvalue : Numeral.value false (Text.decimalDigits n) none none = .ok (.int n) := by
    rw [Numeral.value, gather_decimalDigits h]
    rfl
  rwa [hvalue] at hread

/-- The same of a number below zero. -/
theorem readsBack_negSucc {n : Nat} (h : n < 2 ^ 63) : (Number.int (.negSucc n)).ReadsBack := by
  have hread : (Number.int (.negSucc n)).ReadsAs
      (Numeral.value true (Text.decimalDigits (n + 1)) none none) :=
    Number.readsAs_parts (wholeParts true (n + 1))
      (congrArg ('-' :: ·) (List.append_nil (Text.decimalDigits (n + 1))).symm)
  have hvalue : Numeral.value true (Text.decimalDigits (n + 1)) none none =
      .ok (.int (.negSucc n)) := by
    rw [Numeral.value, gather_decimalDigits (by omega)]
    have hsmall : ¬ (n + 1 = 0 || Nat.pow 2 63 < n + 1) = true := by
      rw [Bool.or_eq_true, decide_eq_true_eq, decide_eq_true_eq, Nat.pow_eq]
      omega
    simp only [Bool.not_true, Bool.false_eq_true, if_false, if_neg hsmall]
    rfl
  rwa [hvalue] at hread

end Conformance.Json
