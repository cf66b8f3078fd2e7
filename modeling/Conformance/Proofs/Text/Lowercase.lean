import Conformance.Text.Lowercase
import Mathlib.Data.List.Basic

/-!
# Lower case, letter by letter

Two facts about where a text in lower case holds another one. The first is that only a capital sigma
is lower-cased by what stands around it: up to the form of small sigmas a text is lower-cased letter
by letter, so parts without a sigma are found as if it were (`infix_lowercase_iff`). The second is
that next to nothing is ASCII in lower case but what was ASCII before: the table of cases has one row
that leads there, for the Kelvin sign, and the capital I with a dot becomes two characters
(`lowercaseFrom_cons_ascii`).
-/

namespace Conformance.Text

/-- A text in lower case, each character on its own wherever it stands. -/
def lowerEach (s : String) : List Char := s.toList.flatMap lowercaseChar

/-- Whether a text is part of another one when case is ignored. -/
def HoldsIgnoringCase (whole part : String) : Prop := lowerEach part <:+: lowerEach whole

theorem holdsIgnoringCase_of_part {whole part : String} (h : part.toList <:+: whole.toList) :
    HoldsIgnoringCase whole part := by
  obtain ⟨before, after, hwhole⟩ := h
  refine ⟨before.flatMap lowercaseChar, after.flatMap lowercaseChar, ?_⟩
  rw [lowerEach, lowerEach, ← hwhole, List.flatMap_append, List.flatMap_append]

/-! ## Sigma -/

/-- A final sigma as any other small sigma. -/
def foldSigma (c : Char) : Char := if c = 'ς' then 'σ' else c

/-- Whether a text has no sigma, in lower case or otherwise. -/
def HasNoSigma (s : String) : Prop := 'σ' ∉ lowerEach s ∧ 'ς' ∉ lowerEach s

theorem eq_sigma_of_toNat {c : Char} (h : c.toNat = 0x3A3) : c = 'Σ' := by
  rw [← Char.ofNat_toNat c, h]

theorem lowercaseChar_sigma : lowercaseChar 'Σ' = ['σ'] := by decide +kernel

/-- What a capital sigma becomes where it stands. -/
theorem lowercaseFrom_sigma (before rest : List Char) :
    lowercaseFrom before ('Σ' :: rest) =
      (if startsCased before && !startsCased rest then 'ς' else 'σ') ::
        lowercaseFrom ('Σ' :: before) rest := rfl

theorem lowercaseFrom_cons {c : Char} (h : c ≠ 'Σ') (before rest : List Char) :
    lowercaseFrom before (c :: rest) = lowercaseChar c ++ lowercaseFrom (c :: before) rest := by
  rw [lowercaseFrom, if_neg (fun hc => h (eq_sigma_of_toNat hc))]

theorem lowercaseFrom_eq {cs : List Char} (h : 'Σ' ∉ cs) (before : List Char) :
    lowercaseFrom before cs = cs.flatMap lowercaseChar := by
  induction cs generalizing before with
  | nil => rfl
  | cons c rest ih =>
      rw [List.mem_cons, not_or] at h
      rw [lowercaseFrom_cons (Ne.symm h.1), ih h.2, List.flatMap_cons]

/-- The first capital sigma of a text goes by what stands on both sides of it. -/
theorem lowercaseFrom_append {cs : List Char} (h : 'Σ' ∉ cs) (before rest : List Char) :
    lowercaseFrom before (cs ++ 'Σ' :: rest) =
      cs.flatMap lowercaseChar ++
        (if startsCased (cs.reverse ++ before) && !startsCased rest then 'ς' else 'σ') ::
          lowercaseFrom ('Σ' :: (cs.reverse ++ before)) rest := by
  induction cs generalizing before with
  | nil => exact lowercaseFrom_sigma before rest
  | cons c cs ih =>
      rw [List.mem_cons, not_or] at h
      rw [List.cons_append, lowercaseFrom_cons (Ne.symm h.1), ih h.2, List.flatMap_cons,
        List.append_assoc, List.reverse_cons, List.append_assoc]
      rfl

theorem startsCased_cons {c : Char} (h : caseIgnorableRanges.contains c = false)
    (rest : List Char) : startsCased (c :: rest) = casedRanges.contains c := by
  rw [startsCased, List.dropWhile_cons_of_neg (Bool.not_eq_true _ ▸ h)]

/-- Where a sigma stands decides no more than which small sigma it becomes. -/
theorem map_foldSigma_lowercaseFrom (before cs : List Char) :
    (lowercaseFrom before cs).map foldSigma = (cs.flatMap lowercaseChar).map foldSigma := by
  induction cs generalizing before with
  | nil => rfl
  | cons c rest ih =>
      rw [List.flatMap_cons, List.map_append]
      by_cases hc : c = 'Σ'
      · subst hc
        rw [lowercaseFrom_sigma, lowercaseChar_sigma, List.map_cons, ih]
        split <;> rfl
      · rw [lowercaseFrom_cons hc, List.map_append, ih]

theorem infix_map_foldSigma {part cs : List Char} (hsmall : 'σ' ∉ part) (hfinal : 'ς' ∉ part) :
    part <:+: cs.map foldSigma ↔ part <:+: cs := by
  have hkeeps : ∀ c, foldSigma c ∈ part → foldSigma c = c := by
    intro c hc
    unfold foldSigma at hc ⊢
    split
    next h => exact absurd (by simpa [h] using hc) hsmall
    next => rfl
  constructor
  · intro h
    obtain ⟨found, hfound, rfl⟩ := List.infix_map_iff.mp h
    have hsame : found.map foldSigma = found := by
      rw [List.map_congr_left fun c hc => hkeeps c (List.mem_map_of_mem hc), List.map_id']
    rwa [hsame]
  · intro h
    have hsame : part.map foldSigma = part := by
      refine (List.map_congr_left fun c hc => ?_).trans (List.map_id' part)
      have hc' : c ≠ 'ς' := fun h => hfinal (h ▸ hc)
      exact if_neg hc'
    rw [← hsame]
    exact h.map foldSigma

/-- A text without a sigma is part of another one in lower case exactly if it is when case is
ignored. -/
theorem infix_lowercase_iff {part : String} (h : HasNoSigma part) (whole : String) :
    (lowercase part).toList <:+: (lowercase whole).toList ↔ HoldsIgnoringCase whole part := by
  have hcapital : 'Σ' ∉ part.toList := by
    intro hmem
    exact h.1 (List.mem_flatMap.mpr ⟨'Σ', hmem, by simp [lowercaseChar_sigma]⟩)
  rw [lowercase, lowercase, String.toList_ofList, String.toList_ofList, lowercaseFrom_eq hcapital]
  show lowerEach part <:+: lowercaseFrom [] whole.toList ↔ lowerEach part <:+: lowerEach whole
  -- The part is the same with its sigmas folded, as it has none, and the whole text has lost by
  -- folding what depends on places.
  rw [← infix_map_foldSigma h.1 h.2, map_foldSigma_lowercaseFrom, infix_map_foldSigma h.1 h.2]
  rfl

/-! ## ASCII -/

/-- What is true of each of the ASCII characters, one after the other. -/
theorem forall_ascii {c : Char} (hc : c.toNat < 0x80) {P : Char → Prop}
    (h : ∀ n < 128, P (Char.ofNat n)) : P c := by
  have hn := h c.toNat hc
  rwa [Char.ofNat_toNat] at hn

theorem lowercaseChar_ascii {c : Char} (h : c.toNat < 0x80) : lowercaseChar c = [asciiLower c] :=
  if_pos h

theorem lowercaseFrom_ascii {cs : List Char} (h : ∀ c ∈ cs, c.toNat < 0x80) (before : List Char) :
    lowercaseFrom before cs = cs.map asciiLower := by
  have hsigma : 'Σ' ∉ cs := fun hmem => absurd (h _ hmem) (by decide)
  rw [lowercaseFrom_eq hsigma, ← List.flatMap_singleton' (cs.map asciiLower), List.flatMap_map]
  exact List.flatMap_congr fun c hc => lowercaseChar_ascii (h c hc)

theorem asciiLower_asciiUpper (c : Char) : asciiLower (asciiUpper c) = asciiLower c := by
  by_cases hascii : c.toNat < 0x80
  · exact forall_ascii hascii (P := fun c => asciiLower (asciiUpper c) = asciiLower c) (by decide)
  · have hsame : asciiUpper c = c := by
      refine if_neg ?_
      rw [Bool.and_eq_true, decide_eq_true_eq, decide_eq_true_eq]
      rintro ⟨-, hle⟩
      have hle' : c.toNat ≤ 122 := hle
      omega
    rw [hsame]

/-- In lower case it does not matter whether a text was in upper case before. -/
theorem asciiLowercase_asciiUppercase (s : String) :
    asciiLowercase (asciiUppercase s) = asciiLowercase s := by
  rw [asciiLowercase, asciiLowercase, asciiUppercase, String.toList_ofList, List.map_map]
  exact congrArg String.ofList (List.map_congr_left fun c _ => asciiLower_asciiUpper c)

/-- Whether a character that is not ASCII has a lower-case form with an ASCII letter: the capital I
with a dot above and the Kelvin sign. -/
def lowersToAscii (c : Char) : Bool := c.toNat == 0x130 || c.toNat == 0x212A

/-- Only the ASCII letters and the Kelvin sign have rows that lead to ASCII. -/
theorem rows_lead_beyond : ∀ row ∈ lowercaseRows,
    row.2.1 < 0x80 ∨ (row.1 = 0x212A ∧ row.2.1 = 0x212A) ∨ 0x80 ≤ (row.1 : Int) + row.2.2.2 := by
  decide +kernel

theorem le_lowercaseCode {n : Nat} (h : 0x80 ≤ n) (hkelvin : n ≠ 0x212A) :
    0x80 ≤ lowercaseCode n := by
  unfold lowercaseCode
  split
  next => exact h
  next first last step distance hfind =>
    have hrow := rows_lead_beyond _ (Array.mem_of_find?_eq_some hfind)
    have hholds := Array.find?_some hfind
    simp only [Bool.and_eq_true, decide_eq_true_eq] at hholds
    dsimp only at hrow
    omega

/-- A number that is no code point makes the null character. -/
theorem toNat_ofNat_cases (n : Nat) : (Char.ofNat n).toNat = n ∨ (Char.ofNat n).toNat = 0 := by
  by_cases hvalid : n.isValidChar
  · have hchar : Char.ofNat n = Char.ofNatAux n hvalid := dif_pos hvalid
    exact .inl (by rw [hchar]; rfl)
  · have hchar : Char.ofNat n = '\x00' := dif_neg hvalid
    exact .inr (by rw [hchar]; rfl)

/-- What a character becomes where it stands is one character, and if that is printable ASCII so was
the character itself. -/
theorem lowercaseFrom_cons_ascii {c : Char} (h : lowersToAscii c = false) (before rest : List Char) :
    ∃ x, lowercaseFrom before (c :: rest) = x :: lowercaseFrom (c :: before) rest ∧
      (0 < x.toNat → x.toNat < 0x80 → c.toNat < 0x80 ∧ x = asciiLower c) := by
  by_cases hsigma : c = 'Σ'
  · subst hsigma
    refine ⟨_, lowercaseFrom_sigma before rest, fun _ hx => ?_⟩
    split at hx <;> exact absurd hx (by decide)
  rw [lowercaseFrom_cons hsigma]
  by_cases hascii : c.toNat < 0x80
  · exact ⟨_, by rw [lowercaseChar_ascii hascii]; rfl, fun _ _ => ⟨hascii, rfl⟩⟩
  · simp only [lowersToAscii, Bool.or_eq_false_iff, beq_eq_false_iff_ne] at h
    have hcode := le_lowercaseCode (Nat.not_lt.mp hascii) h.2
    refine ⟨Char.ofNat (lowercaseCode c.toNat), ?_, fun hpos hx => ?_⟩
    · rw [lowercaseChar, if_neg hascii, if_neg h.1]
      rfl
    · rcases toNat_ofNat_cases (lowercaseCode c.toNat) with hvalid | hinvalid <;> omega

end Conformance.Text
