import Conformance.Text.Utf8
import Mathlib.Data.List.Basic

/-!
# Reading back UTF-8

The bytes of a text are read as its characters: `decodeFrom_encodeChar` for one character with
anything behind it, by the number of its bytes, and `decodeLossy_encode` for a text.
-/

namespace Conformance.Text.Utf8

theorem toNat_ofNat {n : Nat} (h : n < 256) : (UInt8.ofNat n).toNat = n := by
  rw [UInt8.toNat_ofNat', Nat.mod_eq_of_lt h]

/-! ## Steps of reading -/

theorem decodeFrom_whole {b : UInt8} {c : Char} (h : lead b = .whole c) (rest : List UInt8) :
    decodeFrom none (b :: rest) = some c :: decodeFrom none rest := by
  rw [decodeFrom, h]

theorem decodeFrom_part {b : UInt8} {p : Pending} (h : lead b = .part p) (rest : List UInt8) :
    decodeFrom none (b :: rest) = decodeFrom (some p) rest := by
  rw [decodeFrom, h]

/-- A byte in the middle of a character adds its six bits. -/
theorem decodeFrom_next {bits missing least greatest low : Nat} (hleast : least ≤ 0x80 + low)
    (hgreatest : 0x80 + low ≤ greatest) (hlow : low < 0x40) (rest : List UInt8) :
    decodeFrom (some ⟨bits, missing + 2, least, greatest⟩) (.ofNat (0x80 + low) :: rest) =
      decodeFrom (some ⟨bits * 0x40 + low, missing + 1, 0x80, 0xBF⟩) rest := by
  rw [decodeFrom, toNat_ofNat (by omega)]
  simp [hleast, hgreatest]

/-- The last byte of a character ends it. -/
theorem decodeFrom_last {bits low : Nat} (hlow : low < 0x40) (rest : List UInt8) :
    decodeFrom (some ⟨bits, 1, 0x80, 0xBF⟩) (.ofNat (0x80 + low) :: rest) =
      some (Char.ofNat (bits * 0x40 + low)) :: decodeFrom none rest := by
  rw [decodeFrom, toNat_ofNat (by omega)]
  simp [show 0x80 + low ≤ 0xBF by omega]

/-! ## Leading bytes -/

theorem lead_one {n : Nat} (h : n < 0x80) : lead (.ofNat n) = .whole (Char.ofNat n) := by
  simp only [lead, toNat_ofNat (show n < 256 by omega), if_pos h]

theorem lead_two {n : Nat} (h : 0x80 ≤ n) (h' : n < 0x800) :
    lead (.ofNat (0xC0 + n / 0x40)) = .part ⟨n / 0x40, 1, 0x80, 0xBF⟩ := by
  simp only [lead, toNat_ofNat (show 0xC0 + n / 0x40 < 256 by omega)]
  rw [if_neg (by omega), if_neg (by omega), if_pos (by omega), Nat.add_sub_cancel_left]

/-- The second of three bytes is within what the first one leaves open. -/
theorem lead_three {n : Nat} (h : 0x800 ≤ n) (h' : n < 0x10000) (hvalid : n < 0xD800 ∨ 0xDFFF < n) :
    ∃ least greatest, lead (.ofNat (0xE0 + n / 0x1000)) = .part ⟨n / 0x1000, 2, least, greatest⟩ ∧
      least ≤ 0x80 + n / 0x40 % 0x40 ∧ 0x80 + n / 0x40 % 0x40 ≤ greatest := by
  simp only [lead, toNat_ofNat (show 0xE0 + n / 0x1000 < 256 by omega)]
  rw [if_neg (by omega), if_neg (by omega), if_neg (by omega)]
  by_cases hfirst : n / 0x1000 = 0
  · exact ⟨0xA0, 0xBF, by rw [if_pos (by omega), hfirst], by omega, by omega⟩
  by_cases hsurrogates : n / 0x1000 = 0xD
  · exact ⟨0x80, 0x9F, by rw [if_neg (by omega), if_pos (by omega), hsurrogates], by omega, by omega⟩
  · refine ⟨0x80, 0xBF, ?_, by omega, by omega⟩
    rw [if_neg (by omega), if_neg (by omega), if_pos (by omega), Nat.add_sub_cancel_left]

theorem lead_four {n : Nat} (h : 0x10000 ≤ n) (h' : n < 0x110000) :
    ∃ least greatest, lead (.ofNat (0xF0 + n / 0x40000)) = .part ⟨n / 0x40000, 3, least, greatest⟩ ∧
      least ≤ 0x80 + n / 0x1000 % 0x40 ∧ 0x80 + n / 0x1000 % 0x40 ≤ greatest := by
  simp only [lead, toNat_ofNat (show 0xF0 + n / 0x40000 < 256 by omega)]
  rw [if_neg (by omega), if_neg (by omega), if_neg (by omega), if_neg (by omega), if_neg (by omega),
    if_neg (by omega)]
  by_cases hfirst : n / 0x40000 = 0
  · exact ⟨0x90, 0xBF, by rw [if_pos (by omega), hfirst], by omega, by omega⟩
  by_cases hlast : n / 0x40000 = 4
  · refine ⟨0x80, 0x8F, ?_, by omega, by omega⟩
    rw [if_neg (by omega), if_neg (by omega), if_pos (by omega), hlast]
  · refine ⟨0x80, 0xBF, ?_, by omega, by omega⟩
    rw [if_neg (by omega), if_pos (by omega), Nat.add_sub_cancel_left]

/-! ## Characters and texts -/

/-- The bytes of a character are read as it, whatever stands behind them. -/
theorem decodeFrom_encodeChar (c : Char) (rest : List UInt8) :
    decodeFrom none (encodeChar c ++ rest) = some c :: decodeFrom none rest := by
  have hvalid : c.toNat < 0xD800 ∨ 0xDFFF < c.toNat ∧ c.toNat < 0x110000 := c.valid
  conv_rhs => rw [← Char.ofNat_toNat c]
  generalize hn : c.toNat = n at hvalid
  rw [encodeChar, hn, encodeCode]
  by_cases hone : n < 0x80
  · rw [if_pos hone]
    exact decodeFrom_whole (lead_one hone) rest
  by_cases htwo : n < 0x800
  · have hsum : n / 0x40 * 0x40 + n % 0x40 = n := by omega
    rw [if_neg hone, if_pos htwo]
    show decodeFrom none (_ :: _ :: rest) = _
    rw [decodeFrom_part (lead_two (by omega) htwo), decodeFrom_last (by omega), hsum]
  by_cases hthree : n < 0x10000
  · have hsum : (n / 0x1000 * 0x40 + n / 0x40 % 0x40) * 0x40 + n % 0x40 = n := by omega
    obtain ⟨least, greatest, hlead, hleast, hgreatest⟩ :=
      lead_three (by omega) hthree (hvalid.imp_right And.left)
    rw [if_neg hone, if_neg htwo, if_pos hthree]
    show decodeFrom none (_ :: _ :: _ :: rest) = _
    rw [decodeFrom_part hlead, decodeFrom_next hleast hgreatest (by omega),
      decodeFrom_last (by omega), hsum]
  · have hsum : ((n / 0x40000 * 0x40 + n / 0x1000 % 0x40) * 0x40 + n / 0x40 % 0x40) * 0x40 +
        n % 0x40 = n := by omega
    have hlast : n < 0x110000 := by omega
    obtain ⟨least, greatest, hlead, hleast, hgreatest⟩ := lead_four (Nat.not_lt.mp hthree) hlast
    rw [if_neg hone, if_neg htwo, if_neg hthree]
    show decodeFrom none (_ :: _ :: _ :: _ :: rest) = _
    rw [decodeFrom_part hlead, decodeFrom_next hleast hgreatest (by omega),
      decodeFrom_next (by omega) (by omega) (by omega), decodeFrom_last (by omega), hsum]

theorem encodeChar_ne_nil (c : Char) : encodeChar c ≠ [] := by
  unfold encodeChar encodeCode
  split_ifs <;> simp

theorem decodeFrom_encode (cs : List Char) : decodeFrom none (encode cs) = cs.map some := by
  induction cs with
  | nil => rfl
  | cons c rest ih =>
      rw [encode, List.flatMap_cons, decodeFrom_encodeChar, ← encode, ih, List.map_cons]

/-- The bytes of a text are read as it. -/
theorem decodeLossy_encode (cs : List Char) : decodeLossy (encode cs) = cs := by
  rw [decodeLossy, decodeFrom_encode, List.map_map]
  exact List.map_id' cs

/-- They are a text, and not only in part. -/
theorem decode?_encode (cs : List Char) : decode? (encode cs) = some cs := by
  rw [decode?, decodeFrom_encode]
  induction cs with
  | nil => rfl
  | cons c rest ih =>
      rw [List.map_cons, List.mapM_cons, ih]
      rfl

end Conformance.Text.Utf8
