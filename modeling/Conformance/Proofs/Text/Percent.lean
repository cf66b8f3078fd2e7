import Conformance.Proofs.Text.Utf8
import Conformance.Text.Percent

/-!
# Characters of percent-encoded texts

Percent encoding writes characters that stand for themselves, percent signs and digits
(`forall_mem_encode`), and begins with nothing else (`head?_encode`). Where percent signs and digits
stand for themselves too, a text that is encoded is the same when it is encoded again
(`encode_encode`).
-/

namespace Conformance.Text.Percent

variable {plain : Char → Bool}

theorem forall_mem_encode {P : Char → Prop} (hmark : P '%') (hdigit : ∀ n < 16, P (hexDigit n))
    {cs : List Char} (h : ∀ c ∈ cs, plain c = true → P c) : ∀ c ∈ encode plain cs, P c := by
  intro c hc
  obtain ⟨d, hd, hc⟩ := List.mem_flatMap.mp hc
  split at hc
  next hplain => exact List.mem_singleton.mp hc ▸ h d hd hplain
  next =>
    obtain ⟨b, -, hb⟩ := List.mem_flatMap.mp hc
    have hb' := b.toNat_lt
    simp only [encodeByte, List.mem_cons, List.not_mem_nil, or_false] at hb
    rcases hb with rfl | rfl | rfl
    · exact hmark
    · exact hdigit _ (by omega)
    · exact hdigit _ (by omega)

theorem encode_of_plain {cs : List Char} (h : ∀ c ∈ cs, plain c = true) : encode plain cs = cs := by
  calc encode plain cs
    _ = cs.flatMap ([·]) := List.flatMap_congr fun c hc => if_pos (h c hc)
    _ = cs := List.flatMap_singleton' cs

theorem encode_encode (hmark : plain '%' = true) (hdigit : ∀ n < 16, plain (hexDigit n) = true)
    (cs : List Char) : encode plain (encode plain cs) = encode plain cs :=
  encode_of_plain (forall_mem_encode hmark hdigit fun _ _ hc => hc)

theorem head?_encode {cs : List Char} {d : Char} (hd : d ≠ '%')
    (h : (encode plain cs).head? = some d) : cs.head? = some d := by
  cases cs with
  | nil => exact h
  | cons c rest =>
      have hcons : encode plain (c :: rest) =
          (if plain c then [c] else (Utf8.encodeChar c).flatMap encodeByte) ++ encode plain rest :=
        List.flatMap_cons
      rw [hcons] at h
      split at h
      next => exact h
      next =>
        obtain ⟨b, bytes, hbytes⟩ := List.exists_cons_of_ne_nil (Utf8.encodeChar_ne_nil c)
        rw [hbytes] at h
        exact absurd (Option.some.inj h).symm hd

end Conformance.Text.Percent
