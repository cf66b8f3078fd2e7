import Conformance.Proofs.Url.Rendering

/-!
# Pairs in the query of a URL

The pairs of a query are those of a form (`pairs`). Pairs that are appended stand behind the ones
that were there (`pairs_appendPairs`), and a URL that was read is still read back from its text
after that (`proper_appendPairs`).
-/

namespace Conformance.Url

open Text

/-- The pairs of a query. -/
def pairs (u : Url) : List (String × String) := Form.decode (u.query.getD "")

theorem pairs_appendPair (u : Url) (pair : String × String) :
    (u.appendPair pair).pairs = u.pairs ++ [pair] := by
  have hpair := Form.decode_encodePair pair
  have hnone : Form.decode "" = [] := rfl
  cases hquery : u.query with
  | none => simp [pairs, appendPair, hquery, hpair, hnone]
  | some q =>
      by_cases hq : q = ""
      · simp [pairs, appendPair, hquery, hq, hpair, hnone]
      · simp [pairs, appendPair, hquery, hq, hpair, Form.decode_join]

/-- Pairs that are appended stand behind those that were there, in their order. -/
theorem pairs_appendPairs (u : Url) (more : List (String × String)) :
    (u.appendPairs more).pairs = u.pairs ++ more := by
  induction more generalizing u with
  | nil => exact (List.append_nil _).symm
  | cons pair more ih =>
      show ((u.appendPair pair).appendPairs more).pairs = _
      rw [ih, pairs_appendPair, List.append_assoc, List.singleton_append]

/-! ## Characters of appended pairs -/

theorem plainInQuery_of_isPlain (special : Bool) {c : Char} (h : Form.isPlain c = true) :
    plainInQuery special c = true := by
  have hascii := (Form.toNat_of_isPlain h).2
  revert h
  apply forall_ascii hascii
  revert special
  decide

theorem plainInQuery_mark (special : Bool) :
    plainInQuery special '%' = true ∧ plainInQuery special '+' = true ∧
      plainInQuery special '=' = true ∧ plainInQuery special '&' = true := by
  cases special <;> decide

theorem plainInQuery_of_mem_encodePair (special : Bool) {pair : String × String} {c : Char}
    (h : c ∈ Form.encodePair pair) : plainInQuery special c = true := by
  obtain ⟨hpercent, hplus, heq, -⟩ := plainInQuery_mark special
  have hpart : ∀ {cs : List Char}, c ∈ Form.encodePart cs → plainInQuery special c = true := by
    intro cs hc
    rcases Form.mem_encodePart hc with hplain | rfl | rfl
    · exact plainInQuery_of_isPlain special hplain
    · exact hpercent
    · exact hplus
  rcases List.mem_append.mp h with h | h
  · exact hpart h
  rcases List.mem_cons.mp h with rfl | h
  · exact heq
  · exact hpart h

theorem proper_appendPair [Idna] {u : Url} (h : u.Proper) (pair : String × String) :
    (u.appendPair pair).Proper := by
  refine ⟨h.scheme, h.front, ?_, h.fragment⟩
  have hpair : ∀ c ∈ Form.encodePair pair, plainInQuery (isSpecial u.scheme) c = true :=
    fun c hc => plainInQuery_of_mem_encodePair _ hc
  rintro q ⟨⟩ c hc
  show plainInQuery (isSpecial u.scheme) c = true
  split at hc
  next => exact hpair c (by simpa using hc)
  next q' hq' =>
    split at hc
    next => exact hpair c (by simpa using hc)
    next =>
      rw [String.toList_append, String.toList_append, String.toList_ofList, List.mem_append,
        List.mem_append] at hc
      rcases hc with (hc | hc) | hc
      · exact h.query q' hq' c hc
      · rw [List.mem_singleton.mp hc]
        exact (plainInQuery_mark _).2.2.2
      · exact hpair c (by simpa using hc)

theorem proper_appendPairs [Idna] {u : Url} (h : u.Proper) (pairs : List (String × String)) :
    (u.appendPairs pairs).Proper := by
  induction pairs generalizing u with
  | nil => exact h
  | cons pair pairs ih => exact ih (proper_appendPair h pair)

theorem isSome_query_appendPairs (u : Url) (pair : String × String)
    (more : List (String × String)) : (u.appendPairs (pair :: more)).query.isSome = true := by
  induction more generalizing u pair with
  | nil => rfl
  | cons next more ih => exact ih (u.appendPair pair) next

end Conformance.Url
