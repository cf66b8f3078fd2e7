import Conformance.Proofs.Text.Split
import Conformance.Proofs.Text.Utf8
import Conformance.Url.Form

/-!
# Reading back forms

Keys and values are written with few characters (`mem_encodePart`), none of which joins pairs or
parts of a pair. So the pairs of a form are cut where they were joined (`splitOn_encodePairs`), and
each is read as what was written (`decodePair_encodePair`); all together, they are read as what they
were (`decode_encode`).
-/

namespace Conformance.Form

open Text

/-! ## Characters of forms -/

theorem isAlphanum_iff {c : Char} : c.isAlphanum = true ↔
    ((65 ≤ c.toNat ∧ c.toNat ≤ 90) ∨ (97 ≤ c.toNat ∧ c.toNat ≤ 122)) ∨
      (48 ≤ c.toNat ∧ c.toNat ≤ 57) := by
  have hupper : c.isUpper = true ↔ 65 ≤ c.toNat ∧ c.toNat ≤ 90 := decide_eq_true_iff
  have hlower : c.isLower = true ↔ 97 ≤ c.toNat ∧ c.toNat ≤ 122 := by
    show (decide ('a'.val ≤ c.val) && decide (c.val ≤ 'z'.val)) = true ↔ _
    rw [Bool.and_eq_true, decide_eq_true_iff, decide_eq_true_iff]
    exact Iff.rfl
  have hdigit : c.isDigit = true ↔ 48 ≤ c.toNat ∧ c.toNat ≤ 57 := Char.isDigit_iff_toNat
  show (c.isUpper || c.isLower || c.isDigit) = true ↔ _
  rw [Bool.or_eq_true, Bool.or_eq_true, hupper, hlower, hdigit]

theorem toNat_of_isAlphanum {c : Char} (h : c.isAlphanum = true) : c.toNat < 0x80 := by
  have hranges := isAlphanum_iff.mp h
  omega

theorem toNat_of_isPlain {c : Char} (h : isPlain c = true) : 0 < c.toNat ∧ c.toNat < 0x80 := by
  simp only [isPlain, Bool.or_eq_true, beq_iff_eq, isAlphanum_iff] at h
  rcases h with (((halphanum | rfl) | rfl) | rfl) | rfl
  · omega
  all_goals decide

theorem hexDigit_facts : ∀ n < 16,
    isPlain (Percent.hexDigit n) = true ∧ hexValue? (Percent.hexDigit n) = some n := by
  decide

theorem isPlain_hexDigit {n : Nat} (h : n < 16) : isPlain (Percent.hexDigit n) = true :=
  (hexDigit_facts n h).1

theorem hexValue?_hexDigit {n : Nat} (h : n < 16) : hexValue? (Percent.hexDigit n) = some n :=
  (hexDigit_facts n h).2

theorem byte_halves (b : UInt8) : b.toNat / 16 < 16 ∧ b.toNat % 16 < 16 := by
  have := b.toNat_lt
  omega

/-- A byte is written with a percent sign and characters that stand for themselves. -/
theorem mem_encodeByte {b : UInt8} {c : Char} (h : c ∈ Percent.encodeByte b) :
    isPlain c = true ∨ c = '%' := by
  rw [Percent.encodeByte] at h
  simp only [List.mem_cons, List.not_mem_nil, or_false] at h
  rcases h with rfl | rfl | rfl
  · exact .inr rfl
  · exact .inl (isPlain_hexDigit (byte_halves b).1)
  · exact .inl (isPlain_hexDigit (byte_halves b).2)

theorem encodePart_cons (c : Char) (rest : List Char) :
    encodePart (c :: rest) = encodePart [c] ++ encodePart rest := by
  simp [encodePart]

theorem encodePart_plain {c : Char} (h : isPlain c = true) : encodePart [c] = [c] := by
  have hspace : c ≠ ' ' := by
    rintro rfl
    exact absurd h (by decide)
  simp [encodePart, h, hspace]

theorem encodePart_coded {c : Char} (h : isPlain c = false) (hspace : c ≠ ' ') :
    encodePart [c] = (Utf8.encodeChar c).flatMap Percent.encodeByte := by
  simp [encodePart, h, hspace]

theorem mem_encodePart {cs : List Char} {c : Char} (h : c ∈ encodePart cs) :
    isPlain c = true ∨ c = '%' ∨ c = '+' := by
  obtain ⟨d, -, hc⟩ := List.mem_flatMap.mp h
  split at hc
  next => exact .inr (.inr (List.mem_singleton.mp hc))
  next =>
    split at hc
    next hplain =>
      rw [List.mem_singleton.mp hc]
      exact .inl hplain
    next =>
      obtain ⟨b, -, hb⟩ := List.mem_flatMap.mp hc
      rcases mem_encodeByte hb with hplain | hpercent
      · exact .inl hplain
      · exact .inr (.inl hpercent)

theorem amp_not_mem_encodePart (cs : List Char) : '&' ∉ encodePart cs :=
  fun h => absurd (mem_encodePart h) (by decide)

theorem eq_not_mem_encodePart (cs : List Char) : '=' ∉ encodePart cs :=
  fun h => absurd (mem_encodePart h) (by decide)

/-! ## Parts -/

/-- A plus sign as a space. -/
def unplus (c : Char) : Char := if c = '+' then ' ' else c

theorem map_unplus {cs : List Char} (h : '+' ∉ cs) : cs.map unplus = cs := by
  refine (List.map_congr_left fun c hc => ?_).trans (List.map_id' cs)
  have hc' : c ≠ '+' := fun heq => h (heq ▸ hc)
  exact if_neg hc'

theorem percentDecode_cons {c : Char} (h : c ≠ '%') (rest : List Char) :
    Percent.decode (c :: rest) = Utf8.encodeChar c ++ Percent.decode rest := by
  rw [Percent.decode.eq_def]
  split <;> simp_all

theorem percentDecode_encodeByte (b : UInt8) (rest : List Char) :
    Percent.decode (Percent.encodeByte b ++ rest) = b :: Percent.decode rest := by
  obtain ⟨hhigh, hlow⟩ := byte_halves b
  have hsum : b.toNat / 16 * 16 + b.toNat % 16 = b.toNat := by omega
  show Percent.decode ('%' :: _ :: _ :: rest) = _
  rw [Percent.decode, hexValue?_hexDigit hhigh, hexValue?_hexDigit hlow]
  simp only [hsum, UInt8.ofNat_toNat]

theorem percentDecode_encodeBytes (bytes : List UInt8) (rest : List Char) :
    Percent.decode (bytes.flatMap Percent.encodeByte ++ rest) = bytes ++ Percent.decode rest := by
  induction bytes with
  | nil => rfl
  | cons b bytes ih =>
      rw [List.flatMap_cons, List.append_assoc, percentDecode_encodeByte, ih, List.cons_append]

/-- A written text stands for the bytes of the text. -/
theorem percentDecode_encodePart (cs : List Char) :
    Percent.decode ((encodePart cs).map unplus) = Utf8.encode cs := by
  induction cs with
  | nil => rfl
  | cons c rest ih =>
      rw [encodePart_cons, List.map_append, Utf8.encode, List.flatMap_cons, ← Utf8.encode, ← ih]
      by_cases hspace : c = ' '
      · subst hspace
        exact percentDecode_cons (by decide) _
      cases hplain : isPlain c with
      | true =>
          have hpercent : c ≠ '%' := by
            rintro rfl
            exact absurd hplain (by decide)
          have hplus : '+' ∉ [c] := by
            rw [List.mem_singleton]
            rintro rfl
            exact absurd hplain (by decide)
          rw [encodePart_plain hplain, map_unplus hplus]
          exact percentDecode_cons hpercent _
      | false =>
          have hplus : '+' ∉ (Utf8.encodeChar c).flatMap Percent.encodeByte := by
            intro hmem
            obtain ⟨b, -, hb⟩ := List.mem_flatMap.mp hmem
            exact absurd (mem_encodeByte hb) (by decide)
          rw [encodePart_coded hplain hspace, map_unplus hplus, percentDecode_encodeBytes]

/-- A written key or value is read as it was. -/
theorem decodePart_encodePart (s : String) : decodePart (encodePart s.toList) = s := by
  have hbytes := percentDecode_encodePart s.toList
  rw [decodePart]
  show String.ofList (Utf8.decodeLossy (Percent.decode ((encodePart s.toList).map unplus))) = s
  rw [hbytes, Utf8.decodeLossy_encode, String.ofList_toList]

/-! ## Pairs -/

theorem decodePair_encodePair (pair : String × String) : decodePair (encodePair pair) = pair := by
  rw [encodePair, decodePair, splitOnce_append (eq_not_mem_encodePart _)]
  simp only [decodePart_encodePart]

theorem amp_not_mem_encodePair (pair : String × String) : '&' ∉ encodePair pair := by
  rw [encodePair, List.mem_append, List.mem_cons]
  rintro (h | h | h)
  · exact amp_not_mem_encodePart _ h
  · exact absurd h (by decide)
  · exact amp_not_mem_encodePart _ h

theorem splitOn_encodePairs {pairs : List (String × String)} (h : pairs ≠ []) :
    splitOn '&' (encodePairs pairs) = pairs.map encodePair := by
  refine splitOn_intercalate ?_ (mt List.map_eq_nil_iff.mp h)
  intro part hpart
  obtain ⟨pair, -, rfl⟩ := List.mem_map.mp hpart
  exact amp_not_mem_encodePair pair

/-! ## Forms -/

theorem encodePair_isEmpty (pair : String × String) : (encodePair pair).isEmpty = false := by
  simp [encodePair]

theorem map_decodePair_encodePair (pairs : List (String × String)) :
    (pairs.map encodePair).map decodePair = pairs := by
  rw [List.map_map]
  exact (List.map_congr_left fun pair _ => decodePair_encodePair pair).trans (List.map_id' pairs)

/-- Pairs are read as what they were, however their keys and values are spelled. -/
theorem decode_encode (pairs : List (String × String)) : decode (encode pairs) = pairs := by
  by_cases hne : pairs = []
  · subst hne
    rfl
  have hparts : (pairs.map encodePair).filter (!·.isEmpty) = pairs.map encodePair := by
    rw [List.filter_eq_self]
    intro part hpart
    obtain ⟨pair, -, rfl⟩ := List.mem_map.mp hpart
    rw [encodePair_isEmpty, Bool.not_false]
  rw [decode, encode, String.toList_ofList, splitOn_encodePairs hne, hparts,
    map_decodePair_encodePair]

/-- Forms joined by an ampersand are read as the pairs of both. -/
theorem decode_join (first second : String) :
    decode (first ++ "&" ++ second) = decode first ++ decode second := by
  have hcs : (first ++ "&" ++ second).toList = first.toList ++ '&' :: second.toList := by simp
  rw [decode, hcs, splitOn_append, List.filter_append, List.map_append, ← decode, ← decode]

theorem decode_encodePair (pair : String × String) :
    decode (String.ofList (encodePair pair)) = [pair] := by
  have hpair := decode_encode [pair]
  rwa [encode, encodePairs, List.map_singleton, List.intercalate_singleton] at hpair

end Conformance.Form
