import Conformance.Proofs.Text.Utf8
import Conformance.Text.Base64

/-!
# Reading back base64

Bytes are written as numbers of six bits (`sextets`), each as the character of an alphabet. The
characters tell the numbers (`values?_map_char`) and the numbers the bytes (`join?_sextets`), however
many bytes the last group has. So a text is read back from the characters that stand for it
(`text?_ofText`).
-/

namespace Conformance.Text.Base64

/-! ## Characters -/

theorem char_facts (a : Alphabet) :
    ∀ n < 64, a.value? (a.char n) = some n ∧ a.char n ≠ '.' := by
  cases a <;> decide

theorem value?_char (a : Alphabet) {n : Nat} (h : n < 64) : a.value? (a.char n) = some n :=
  (char_facts a n h).1

theorem char_ne_dot (a : Alphabet) {n : Nat} (h : n < 64) : a.char n ≠ '.' :=
  (char_facts a n h).2

theorem values?_map_char (a : Alphabet) {ns : List Nat} (h : ∀ n ∈ ns, n < 64) :
    values? a (ns.map a.char) = some ns := by
  induction ns with
  | nil => rfl
  | cons n rest ih =>
      obtain ⟨hn, hrest⟩ := List.forall_mem_cons.mp h
      rw [List.map_cons, values?, value?_char a hn, ih hrest]

/-! ## Numbers of six bits -/

/-- Bytes as numbers of six bits, the last of them filled up with zeros. -/
def sextets : List UInt8 → List Nat
  | [] => []
  | [x] => [x.toNat / 4, x.toNat % 4 * 16]
  | [x, y] => [x.toNat / 4, x.toNat % 4 * 16 + y.toNat / 16, y.toNat % 16 * 4]
  | x :: y :: z :: rest =>
      x.toNat / 4 :: (x.toNat % 4 * 16 + y.toNat / 16) :: (y.toNat % 16 * 4 + z.toNat / 64) ::
        (z.toNat % 64) :: sextets rest

theorem encode_eq_map (a : Alphabet) (bytes : List UInt8) :
    encode a bytes = (sextets bytes).map a.char := by
  fun_induction sextets bytes with
  | case1 => rfl
  | case2 x => rfl
  | case3 x y => rfl
  | case4 x y z rest ih => simp only [encode, ih, List.map_cons]

theorem lt_of_mem_sextets {bytes : List UInt8} {n : Nat} (h : n ∈ sextets bytes) : n < 64 := by
  fun_induction sextets bytes with
  | case1 => cases h
  | case2 x =>
      have hx := x.toNat_lt
      simp only [List.mem_cons, List.not_mem_nil, or_false] at h
      omega
  | case3 x y =>
      have hx := x.toNat_lt
      have hy := y.toNat_lt
      simp only [List.mem_cons, List.not_mem_nil, or_false] at h
      omega
  | case4 x y z rest ih =>
      have hx := x.toNat_lt
      have hy := y.toNat_lt
      have hz := z.toNat_lt
      simp only [List.mem_cons] at h
      rcases h with h | h | h | h | h
      · omega
      · omega
      · omega
      · omega
      · exact ih h

/-- A byte is made of its upper and its lower bits. -/
theorem ofNat_split (x : UInt8) {high low : Nat} (h : high + low = x.toNat) :
    UInt8.ofNat (high + low) = x := by
  rw [h, UInt8.ofNat_toNat]

theorem join?_sextets (bytes : List UInt8) : join? (sextets bytes) = some bytes := by
  fun_induction sextets bytes with
  | case1 => rfl
  | case2 x =>
      have hx : x.toNat / 4 * 4 + x.toNat % 4 * 16 / 16 = x.toNat := by omega
      rw [join?, if_pos (by omega), ofNat_split x hx]
  | case3 x y =>
      have hy := y.toNat_lt
      have hfirst : x.toNat / 4 * 4 + (x.toNat % 4 * 16 + y.toNat / 16) / 16 = x.toNat := by omega
      have hsecond : (x.toNat % 4 * 16 + y.toNat / 16) % 16 * 16 + y.toNat % 16 * 4 / 4 =
          y.toNat := by omega
      rw [join?, if_pos (by omega), ofNat_split x hfirst, ofNat_split y hsecond]
  | case4 x y z rest ih =>
      have hy := y.toNat_lt
      have hz := z.toNat_lt
      have hfirst : x.toNat / 4 * 4 + (x.toNat % 4 * 16 + y.toNat / 16) / 16 = x.toNat := by omega
      have hsecond : (x.toNat % 4 * 16 + y.toNat / 16) % 16 * 16 +
          (y.toNat % 16 * 4 + z.toNat / 64) / 4 = y.toNat := by omega
      have hthird : (y.toNat % 16 * 4 + z.toNat / 64) % 4 * 64 + z.toNat % 64 = z.toNat := by omega
      rw [join?, ih]
      dsimp only
      rw [ofNat_split x hfirst, ofNat_split y hsecond, ofNat_split z hthird]

/-! ## Bytes and texts -/

/-- Bytes are read back from the characters that stand for them. -/
theorem decode?_encode (a : Alphabet) (bytes : List UInt8) :
    decode? a (encode a bytes) = some bytes := by
  rw [decode?, encode_eq_map, values?_map_char a fun n hn => lt_of_mem_sextets hn]
  exact join?_sextets bytes

theorem dot_not_mem_encode (a : Alphabet) (bytes : List UInt8) : '.' ∉ encode a bytes := by
  rw [encode_eq_map]
  intro h
  obtain ⟨n, hn, hdot⟩ := List.mem_map.mp h
  exact char_ne_dot a (lt_of_mem_sextets hn) hdot

/-- The text that characters of the alphabet for URLs stand for. -/
def text? (cs : List Char) : Option String :=
  ((decode? .url cs).bind Utf8.decode?).map String.ofList

theorem text?_ofText (s : String) : text? (ofText s).toList = some s := by
  rw [text?, ofText, String.toList_ofList, decode?_encode, Option.bind_some, Utf8.decode?_encode,
    Option.map_some, String.ofList_toList]

theorem dot_not_mem_ofText (s : String) : '.' ∉ (ofText s).toList := by
  rw [ofText, String.toList_ofList]
  exact dot_not_mem_encode _ _

end Conformance.Text.Base64
