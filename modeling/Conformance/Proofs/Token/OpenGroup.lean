import Conformance.Proofs.Token.FirstFit
import Conformance.Proofs.Token.Requests

/-!
# The open group

A group is open as long as no member has declared a code. A need that declares none starts an open group,
and so does one that declares only empty codes; any need that does declare one closes the group that it
joins. `serveAll_openLast` says that there is never more than one open group, and that it is the last.

An open group keeps no need out (`KeepsOut.exists_code`), so while there is one no other group is started
behind it. Once it is closed it stays so, since groups only gain codes (`place_grows`). The invariant
that carries the induction is said of the other groups: all in front of the last one have a code.
-/

namespace Conformance

/-- Whether a group has no codes. -/
def TokenGroup.Open (g : TokenGroup) : Prop := g.required = [] ∧ g.excluded = []

instance (g : TokenGroup) : Decidable g.Open := inferInstanceAs (Decidable (_ ∧ _))

theorem TokenGroup.isUnrestricted_iff_open {g : TokenGroup} : g.isUnrestricted = true ↔ g.Open := by
  simp [isUnrestricted, Open]

theorem TokenGroup.not_open_iff {g : TokenGroup} :
    ¬ g.Open ↔ ∃ c, c ∈ g.required ∨ c ∈ g.excluded := by
  rw [← isUnrestricted_iff_open, Bool.not_eq_true, isUnrestricted_eq_false_iff]

namespace TokenStore

variable {s : TokenStore}

/-- Whether all groups in front of the last one have a code. -/
def ClosedBeforeLast (s : TokenStore) : Prop :=
  ∀ (i : Nat) (t : TokenRequirement), s.requirements[i]? = some t →
    i + 1 < s.requirements.length → ∃ c, c ∈ t.required ∨ c ∈ t.excluded

/-- Placing a need keeps them closed: the group that it joins only gains codes, and where it starts a
group, all that stand in front of that one have kept it out. -/
theorem ClosedBeforeLast.place (h : s.ClosedBeforeLast) (n : PermissionNeed) :
    (s.place n).ClosedBeforeLast := by
  intro i t ht hi
  have hbefore : ∃ t', s.requirements[i]? = some t' ∧ ∃ c, c ∈ t'.required ∨ c ∈ t'.excluded := by
    rcases place_cases s n with ⟨g, -, -, hplace⟩ | ⟨-, hslot, hplace⟩
    · have hlength : (s.place n).requirements.length = s.requirements.length := by
        simp only [hplace, requirements, List.length_map, List.length_set]
      rw [hlength] at hi
      have hlt : i < s.requirements.length := Nat.lt_of_succ_lt hi
      exact ⟨s.requirements[i], List.getElem?_eq_getElem hlt,
        h i _ (List.getElem?_eq_getElem hlt) hi⟩
    · have hlt : i < s.slot n := by
        simp only [hplace, create, nextName, requirements, List.length_map, List.length_append,
          List.length_singleton] at hi
        omega
      obtain ⟨t', ht', hout⟩ := keepsOut_of_lt_slot hlt
      exact ⟨t', ht', hout.exists_code⟩
  obtain ⟨t', ht', hcode⟩ := hbefore
  obtain ⟨u, hu, hgrows⟩ := place_grows n ht'
  rw [hu] at ht
  cases ht
  exact hgrows.exists_code hcode

theorem ClosedBeforeLast.serve (h : s.ClosedBeforeLast) (r : Request) :
    (s.serve r).2.ClosedBeforeLast := by
  cases r with
  | name => exact h
  | place n =>
      by_cases hn : n.SelfConflicting
      · rw [serve_place_of_selfConflicting hn]
        exact h
      · rw [serve_place_of_not_selfConflicting hn]
        exact h.place n

theorem ClosedBeforeLast.serveAll (h : s.ClosedBeforeLast) (requests : List Request) :
    (serveAll requests s).2.ClosedBeforeLast := by
  induction requests generalizing s with
  | nil => exact h
  | cons r rest ih => exact ih (h.serve r)

/-! ## At most one, and the last -/

/-- Whether at most one group is open, and none but the last. -/
structure OpenLast (groups : List TokenGroup) : Prop where
  /-- No two groups are open. -/
  one : groups.countP (fun g => g.Open) ≤ 1
  /-- Nothing stands behind an open group. -/
  last : ∀ (i : Nat) (g : TokenGroup), groups[i]? = some g → g.Open → i + 1 = groups.length

/-- With nothing behind an open group, there are no two of them. -/
theorem OpenLast.of_last {groups : List TokenGroup}
    (h : ∀ (i : Nat) (g : TokenGroup), groups[i]? = some g → g.Open → i + 1 = groups.length) :
    OpenLast groups := by
  refine ⟨?_, h⟩
  rcases List.eq_nil_or_concat' groups with rfl | ⟨front, g, rfl⟩
  · exact Nat.zero_le 1
  · have hfront : front.countP (fun g => g.Open) = 0 := by
      rw [List.countP_eq_zero]
      intro f hf hopen
      obtain ⟨i, hi, rfl⟩ := List.getElem_of_mem hf
      have hat : (front ++ [g])[i]? = some front[i] := by
        rw [List.getElem?_append_left hi, List.getElem?_eq_getElem hi]
      have hend := h i _ hat (of_decide_eq_true hopen)
      rw [List.length_append, List.length_singleton] at hend
      omega
    rw [List.countP_append, hfront, Nat.zero_add]
    exact List.countP_le_length

theorem openLast_iff : OpenLast s.groups ↔ s.ClosedBeforeLast := by
  constructor
  · intro h i t ht hi
    rw [requirements, List.getElem?_map] at ht
    obtain ⟨g, hg, rfl⟩ := Option.map_eq_some_iff.mp ht
    rw [requirements, List.length_map] at hi
    apply TokenGroup.not_open_iff.mp
    intro hopen
    have hend := h.last i g hg hopen
    omega
  · intro h
    apply OpenLast.of_last
    intro i g hg hopen
    have hlt := (List.getElem?_eq_some_iff.mp hg).1
    have hat : s.requirements[i]? = some g.requirement := by
      rw [requirements, List.getElem?_map, hg]
      rfl
    by_contra hne
    apply TokenGroup.not_open_iff.mpr (h i _ hat ?_) hopen
    rw [requirements, List.length_map]
    omega

/-- **One open group at most, and the last.** Whatever a store is asked for, at most one of its groups
has no codes, and none but the last. This is kept by each request to any store, at whatever number its
counter stands, and so it holds of a store without groups after requests in any number. -/
theorem serveAll_openLast :
    (∀ (s : TokenStore) (r : Request), OpenLast s.groups → OpenLast (s.serve r).2.groups) ∧
    ∀ (stem : String) (requests : List Request),
      OpenLast (serveAll requests (new stem)).2.groups := by
  constructor
  · intro s r h
    exact openLast_iff.mpr ((openLast_iff.mp h).serve r)
  · intro stem requests
    have hnew : (new stem).ClosedBeforeLast := nofun
    exact openLast_iff.mpr (hnew.serveAll requests)

/-- A need whose only code is empty starts an open group, and one without codes joins it. A need with a
code closes it, and the next one without codes starts another. -/
def reopeningRequests : List Request :=
  [.place ⟨"t1", [""], []⟩, .place ⟨"t2", [], []⟩, .place ⟨"t3", [], ["A"]⟩, .place ⟨"t4", [], []⟩]

theorem reopeningRequests_openLast :
    ((serveAll reopeningRequests (new "account")).2.groups.map fun g => (g.ids, decide g.Open)) =
        [(["t1", "t2", "t3"], false), (["t4"], true)] ∧
      OpenLast (serveAll reopeningRequests (new "account")).2.groups ∧
      OpenLast ((serveAll reopeningRequests (new "account")).2.serve
        (.place ⟨"t5", ["A"], []⟩)).2.groups := by
  have hreached : OpenLast (serveAll reopeningRequests (new "account")).2.groups :=
    serveAll_openLast.2 "account" reopeningRequests
  exact ⟨by decide, hreached, serveAll_openLast.1 _ (.place ⟨"t5", ["A"], []⟩) hreached⟩

end TokenStore

end Conformance
