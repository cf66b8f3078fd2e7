import Conformance.Text.Split
import Mathlib.Data.List.Basic

/-!
# Cutting texts and putting them together

What a text is cut into, everywhere (`splitOn_eq`, `splitOn_append`) and once (`splitOnce_append`,
`splitOnce_eq_none`), and when it holds another one (`occursIn_iff`), in the terms of lists. A text
either lacks a character or is what stands in front of its first occurrence and what stands behind
(`List.eq_append_cons_of_mem`), so the two facts on `splitOnce` say all of it.
-/

namespace Conformance.Text

variable {sep : Char}

theorem splitOn_eq (cs : List Char) : splitOn sep cs = cs.splitOn sep := by
  induction cs with
  | nil => rfl
  | cons c rest ih =>
      rw [splitOn, ih, List.splitOn_cons_eq_if_modifyHead]
      by_cases hc : c = sep
      · simp [hc]
      · obtain ⟨first, others, hcut⟩ := List.exists_cons_of_ne_nil (List.splitOn_ne_nil sep rest)
        simp [hc, hcut]

/-- A text is never cut into no part at all. -/
theorem splitOn_ne_nil (cs : List Char) : splitOn sep cs ≠ [] := by
  rw [splitOn_eq]
  exact List.splitOn_ne_nil sep cs

theorem intercalate_splitOn (cs : List Char) : [sep].intercalate (splitOn sep cs) = cs := by
  rw [splitOn_eq, List.intercalate_splitOn]

theorem not_mem_of_mem_splitOn {cs part : List Char} (h : part ∈ splitOn sep cs) : sep ∉ part := by
  induction cs generalizing part with
  | nil =>
      rw [splitOn, List.mem_singleton] at h
      simp [h]
  | cons c rest ih =>
      rw [splitOn] at h
      by_cases hc : c = sep
      · rw [if_pos hc] at h
        rcases List.mem_cons.mp h with rfl | h
        · exact List.not_mem_nil
        · exact ih h
      · rw [if_neg hc] at h
        split at h
        next first others hcut =>
          rw [hcut] at ih
          rcases List.mem_cons.mp h with rfl | h
          · have hfirst : sep ∉ first := ih List.mem_cons_self
            simp [hfirst, Ne.symm hc]
          · exact ih (List.mem_cons_of_mem _ h)
        next hcut => exact absurd hcut (splitOn_ne_nil rest)

/-- Parts without the character that joins them are what the joined text is cut into. -/
theorem splitOn_intercalate {parts : List (List Char)} (h : ∀ part ∈ parts, sep ∉ part)
    (hne : parts ≠ []) : splitOn sep ([sep].intercalate parts) = parts := by
  rw [splitOn_eq, List.splitOn_intercalate sep h hne]

/-- A text in front of a separator and one behind it are cut apart from each other. -/
theorem splitOn_append (front back : List Char) :
    splitOn sep (front ++ sep :: back) = splitOn sep front ++ splitOn sep back := by
  induction front with
  | nil => simp [splitOn]
  | cons c rest ih =>
      obtain ⟨first, others, hcut⟩ := List.exists_cons_of_ne_nil (@splitOn_ne_nil sep rest)
      rw [List.cons_append, splitOn, splitOn, ih, hcut]
      split <;> rfl

theorem mem_intercalate {parts : List (List Char)} {c : Char} (h : c ∈ [sep].intercalate parts) :
    c = sep ∨ ∃ part ∈ parts, c ∈ part := by
  match parts with
  | [] => simp at h
  | [part] => exact .inr ⟨part, List.mem_singleton_self part, by simpa using h⟩
  | part :: next :: rest =>
      rw [List.intercalate_cons_cons, List.mem_append, List.mem_append, List.mem_singleton] at h
      rcases h with (h | rfl) | h
      · exact .inr ⟨part, List.mem_cons_self, h⟩
      · exact .inl rfl
      · rcases mem_intercalate h with rfl | ⟨part', hmem, hc⟩
        · exact .inl rfl
        · exact .inr ⟨part', List.mem_cons_of_mem _ hmem, hc⟩

theorem splitOnce_append {before : List Char} (h : sep ∉ before) (after : List Char) :
    splitOnce sep (before ++ sep :: after) = some (before, after) := by
  induction before with
  | nil => simp [splitOnce]
  | cons c before ih =>
      rw [List.mem_cons, not_or] at h
      rw [List.cons_append, splitOnce, if_neg (Ne.symm h.1), ih h.2]

theorem splitOnce_eq_none {cs : List Char} (h : sep ∉ cs) : splitOnce sep cs = none := by
  induction cs with
  | nil => rfl
  | cons c rest ih =>
      rw [List.mem_cons, not_or] at h
      rw [splitOnce, if_neg (Ne.symm h.1), ih h.2]

theorem occursIn_iff {part cs : List Char} : occursIn part cs = true ↔ part <:+: cs := by
  induction cs with
  | nil => simp [occursIn]
  | cons c rest ih =>
      rw [occursIn, Bool.or_eq_true, List.isPrefixOf_iff_prefix, ih, List.infix_cons_iff]

end Conformance.Text
