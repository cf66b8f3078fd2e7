import Conformance.Token.Calls

/-!
# Grouping test cases

What `TokenStore.resolve` makes of a list of permission needs.

* `TokenRequirement.Serves` says what a token owes to the needs that share it: their identifiers in
  order, the union of their codes, ordered and each once, and no code on both sides.
* `Grouping` says that every need has one slot and that every token serves the needs of its slot.
* `resolve_grouping_or_conflict`: the needs are grouped so, unless one of them contradicts itself;
  then the first such need is reported.

The invariant that carries the induction is `Grouping` itself. A need only ever joins a group that
accepts it, so the union with its codes keeps the two sides apart (`Serves.absorb`); the needs that
were there before are safe because their codes are in the union already.
-/

namespace Conformance

/-- Whether one code is both required and excluded. -/
def PermissionNeed.SelfConflicting (n : PermissionNeed) : Prop :=
  ∃ c, c ∈ n.required ∧ c ∈ n.excluded

theorem PermissionNeed.conflicts_isEmpty_iff {n : PermissionNeed} :
    n.conflicts.isEmpty = true ↔ ¬ n.SelfConflicting := by
  unfold conflicts SelfConflicting
  rw [List.isEmpty_iff, List.filter_eq_nil_iff]
  simp

/-! ## Ordered code lists -/

namespace TokenGroup

theorem mem_insertCode {c code : String} {l : List String} :
    c ∈ insertCode code l ↔ c = code ∨ c ∈ l := by
  induction l with
  | nil => simp [insertCode]
  | cons d rest ih =>
      unfold insertCode
      split
      · simp
      · split
        next heq => subst heq; simp
        next => simp only [List.mem_cons, ih]; exact or_left_comm

theorem pairwise_insertCode {code : String} {l : List String} (h : l.Pairwise (· < ·)) :
    (insertCode code l).Pairwise (· < ·) := by
  induction l with
  | nil => simp [insertCode]
  | cons d rest ih =>
      obtain ⟨hd, hrest⟩ := List.pairwise_cons.mp h
      unfold insertCode
      split
      next hlt =>
        refine List.pairwise_cons.mpr ⟨fun c hc => ?_, h⟩
        rcases List.mem_cons.mp hc with rfl | hc
        · exact hlt
        · exact String.lt_trans hlt (hd c hc)
      next hge =>
        split
        next => exact h
        next hne =>
          refine List.pairwise_cons.mpr ⟨fun c hc => ?_, ih hrest⟩
          rcases mem_insertCode.mp hc with rfl | hc
          · refine Decidable.byContradiction fun hn => hne ?_
            exact String.le_antisymm (String.not_lt.mp hn) (String.not_lt.mp hge)
          · exact hd c hc

theorem mem_insertCodes {c : String} {codes known : List String} :
    c ∈ insertCodes codes known ↔ c ≠ "" ∧ c ∈ codes ∨ c ∈ known := by
  unfold insertCodes
  induction codes generalizing known with
  | nil => simp
  | cons d rest ih =>
      rw [List.foldl_cons, ih]
      by_cases hd : d = ""
      · subst hd
        rw [if_pos rfl]
        have hc : c ∈ "" :: rest ∧ c ≠ "" ↔ c ∈ rest ∧ c ≠ "" := by
          simp only [List.mem_cons]
          exact ⟨fun h => ⟨h.1.resolve_left h.2, h.2⟩, fun h => ⟨.inr h.1, h.2⟩⟩
        rw [and_comm (a := c ≠ ""), and_comm (a := c ≠ ""), hc]
      · rw [if_neg hd, mem_insertCode, List.mem_cons]
        constructor
        · rintro (⟨hc, hm⟩ | rfl | hm)
          · exact .inl ⟨hc, .inr hm⟩
          · exact .inl ⟨hd, .inl rfl⟩
          · exact .inr hm
        · rintro (⟨hc, rfl | hm⟩ | hm)
          · exact .inr (.inl rfl)
          · exact .inl ⟨hc, hm⟩
          · exact .inr (.inr hm)

theorem pairwise_insertCodes {codes known : List String} (h : known.Pairwise (· < ·)) :
    (insertCodes codes known).Pairwise (· < ·) := by
  unfold insertCodes
  induction codes generalizing known with
  | nil => exact h
  | cons d rest ih =>
      rw [List.foldl_cons]
      apply ih
      split
      · exact h
      · exact pairwise_insertCode h

/-! ## Joining -/

theorem accepts_iff {g : TokenGroup} {n : PermissionNeed} :
    g.accepts n = true ↔
      (∀ c ∈ g.required, c ∉ n.excluded) ∧ ∀ c ∈ g.excluded, c ∉ n.required := by
  simp [accepts]

/-- A need without codes is accepted by every group, so joining always means being accepted. -/
theorem accepts_of_joins {g : TokenGroup} {n : PermissionNeed}
    (h : TokenStore.joins n g = true) : g.accepts n = true := by
  unfold TokenStore.joins at h
  split at h
  next hn =>
    simp only [PermissionNeed.isUnrestricted, Bool.and_eq_true, List.isEmpty_iff] at hn
    simp [accepts, hn.1, hn.2]
  next => exact h

end TokenGroup

/-! ## Serving needs -/

/-- What a token owes to the needs that share it. -/
structure TokenRequirement.Serves (t : TokenRequirement) (members : List PermissionNeed) :
    Prop where
  /-- Their identifiers, in order. -/
  ids_eq : t.ids = members.map (·.id)
  /-- The required codes are in order, each once. -/
  required_sorted : t.required.Pairwise (· < ·)
  /-- The excluded codes are in order, each once. -/
  excluded_sorted : t.excluded.Pairwise (· < ·)
  /-- The required codes are those that some member requires, the empty one apart. -/
  mem_required : ∀ c, c ∈ t.required ↔ c ≠ "" ∧ ∃ n ∈ members, c ∈ n.required
  /-- The excluded codes are those that some member excludes, the empty one apart. -/
  mem_excluded : ∀ c, c ∈ t.excluded ↔ c ≠ "" ∧ ∃ n ∈ members, c ∈ n.excluded
  /-- No required code is excluded, by the token or by a member. -/
  required_free : ∀ c ∈ t.required, c ∉ t.excluded ∧ ∀ n ∈ members, c ∉ n.excluded
  /-- No excluded code is required by a member. -/
  excluded_free : ∀ c ∈ t.excluded, ∀ n ∈ members, c ∉ n.required

namespace TokenRequirement.Serves

open TokenGroup

/-- With the unions given, the two sides are apart as soon as the token's own codes are. -/
theorem of_disjoint {t : TokenRequirement} {members : List PermissionNeed}
    (hids : t.ids = members.map (·.id)) (hr : t.required.Pairwise (· < ·))
    (he : t.excluded.Pairwise (· < ·))
    (hmr : ∀ c, c ∈ t.required ↔ c ≠ "" ∧ ∃ n ∈ members, c ∈ n.required)
    (hme : ∀ c, c ∈ t.excluded ↔ c ≠ "" ∧ ∃ n ∈ members, c ∈ n.excluded)
    (hd : ∀ c ∈ t.required, c ∉ t.excluded) : t.Serves members where
  ids_eq := hids
  required_sorted := hr
  excluded_sorted := he
  mem_required := hmr
  mem_excluded := hme
  required_free c hc := by
    refine ⟨hd c hc, fun n hn hcn => hd c hc ?_⟩
    exact (hme c).mpr ⟨((hmr c).mp hc).1, n, hn, hcn⟩
  excluded_free c hc n hn hcn := by
    refine hd c ?_ hc
    exact (hmr c).mpr ⟨((hme c).mp hc).1, n, hn, hcn⟩

/-- A group without members serves none. -/
theorem nil (name : String) : (requirement ⟨name, [], [], []⟩).Serves [] :=
  of_disjoint rfl .nil .nil (by simp [requirement]) (by simp [requirement]) (by simp [requirement])

/-- A group that accepts a need serves it too once it has taken it in. -/
theorem absorb {g : TokenGroup} {members : List PermissionNeed} {n : PermissionNeed}
    (h : g.requirement.Serves members) (hacc : g.accepts n = true) (hn : ¬ n.SelfConflicting) :
    (g.absorb n).requirement.Serves (members ++ [n]) := by
  obtain ⟨hreq, hexc⟩ := accepts_iff.mp hacc
  have hmr : ∀ c, c ∈ insertCodes n.required g.required ↔
      c ≠ "" ∧ ∃ m ∈ members ++ [n], c ∈ m.required := by
    intro c
    have hg : c ∈ g.required ↔ c ≠ "" ∧ ∃ m ∈ members, c ∈ m.required := h.mem_required c
    rw [mem_insertCodes, hg, ← and_or_left]
    simp only [List.mem_append, List.mem_singleton, or_and_right, exists_or, exists_eq_left]
    rw [or_comm]
  have hme : ∀ c, c ∈ insertCodes n.excluded g.excluded ↔
      c ≠ "" ∧ ∃ m ∈ members ++ [n], c ∈ m.excluded := by
    intro c
    have hg : c ∈ g.excluded ↔ c ≠ "" ∧ ∃ m ∈ members, c ∈ m.excluded := h.mem_excluded c
    rw [mem_insertCodes, hg, ← and_or_left]
    simp only [List.mem_append, List.mem_singleton, or_and_right, exists_or, exists_eq_left]
    rw [or_comm]
  refine of_disjoint ?_ (pairwise_insertCodes h.required_sorted)
    (pairwise_insertCodes h.excluded_sorted) hmr hme ?_
  · have hg : g.ids = members.map (·.id) := h.ids_eq
    simp [requirement, TokenGroup.absorb, hg]
  · -- Four cases: where the code comes from on either side.
    intro c hc hc'
    rcases mem_insertCodes.mp hc with ⟨-, hcn⟩ | hcg <;>
      rcases mem_insertCodes.mp hc' with ⟨-, hcn'⟩ | hcg'
    · exact hn ⟨c, hcn, hcn'⟩
    · exact hexc c hcg' hcn
    · exact hreq c hcg hcn'
    · exact (h.required_free c hcg).1 hcg'

end TokenRequirement.Serves

/-! ## Groupings -/

/-- The needs whose slot is `k`, in order. -/
def membersAt (needs : List PermissionNeed) (slots : List Nat) (k : Nat) : List PermissionNeed :=
  ((needs.zip slots).filter fun p => p.2 == k).map (·.1)

/-- The tokens that serve needs, each need at its slot. -/
structure Grouping (needs : List PermissionNeed) (slots : List Nat)
    (tokens : List TokenRequirement) : Prop where
  /-- Every need has one slot. -/
  length_eq : slots.length = needs.length
  /-- Every slot is that of a token. -/
  slot_lt : ∀ k ∈ slots, k < tokens.length
  /-- Every token has a need. -/
  slot_used : ∀ k < tokens.length, k ∈ slots
  /-- A token serves the needs at its slot. -/
  serves : ∀ (k : Nat) (t : TokenRequirement), tokens[k]? = some t →
    t.Serves (membersAt needs slots k)

theorem membersAt_append {needs : List PermissionNeed} {slots : List Nat}
    (h : slots.length = needs.length) (n : PermissionNeed) (j k : Nat) :
    membersAt (needs ++ [n]) (slots ++ [j]) k =
      membersAt needs slots k ++ if j = k then [n] else [] := by
  unfold membersAt
  rw [List.zip_append h.symm, List.filter_append, List.map_append]
  by_cases hjk : j = k <;> simp [hjk]

theorem membersAt_eq_nil {needs : List PermissionNeed} {slots : List Nat} {k : Nat}
    (h : k ∉ slots) : membersAt needs slots k = [] := by
  unfold membersAt
  rw [List.map_eq_nil_iff, List.filter_eq_nil_iff]
  rintro ⟨n, j⟩ hp hj
  have hjk : j = k := by simpa using hj
  exact h (hjk ▸ (List.of_mem_zip hp).2)

theorem mem_of_mem_membersAt {needs : List PermissionNeed} {slots : List Nat} {k : Nat}
    {n : PermissionNeed} (h : n ∈ membersAt needs slots k) : n ∈ needs := by
  obtain ⟨⟨m, j⟩, hp, rfl⟩ := List.mem_map.mp h
  exact (List.of_mem_zip (List.mem_filter.mp hp).1).1

namespace Grouping

variable {needs : List PermissionNeed} {slots : List Nat} {tokens : List TokenRequirement}

/-- No needs and no tokens. -/
theorem nil : Grouping [] [] [] where
  length_eq := rfl
  slot_lt := by simp
  slot_used := by simp
  serves := by simp

/-- One more need at the slot of a token that is there already. -/
theorem join (h : Grouping needs slots tokens) {k : Nat} (hk : k < tokens.length)
    {n : PermissionNeed} {t : TokenRequirement} (ht : t.Serves (membersAt needs slots k ++ [n])) :
    Grouping (needs ++ [n]) (slots ++ [k]) (tokens.set k t) where
  length_eq := by simp [h.length_eq]
  slot_lt := by
    intro j hj
    rw [List.length_set]
    rcases List.mem_append.mp hj with hj | hj
    · exact h.slot_lt j hj
    · rw [List.mem_singleton] at hj
      exact hj ▸ hk
  slot_used := by
    intro j hj
    rw [List.length_set] at hj
    exact List.mem_append_left _ (h.slot_used j hj)
  serves := by
    intro j u hu
    rw [membersAt_append h.length_eq]
    by_cases hjk : k = j
    · subst hjk
      rw [List.getElem?_set_self hk] at hu
      cases hu
      rw [if_pos rfl]
      exact ht
    · rw [List.getElem?_set_ne hjk] at hu
      rw [if_neg hjk, List.append_nil]
      exact h.serves j u hu

/-- One more need with a token of its own. -/
theorem create (h : Grouping needs slots tokens) {n : PermissionNeed} {t : TokenRequirement}
    (ht : t.Serves [n]) :
    Grouping (needs ++ [n]) (slots ++ [tokens.length]) (tokens ++ [t]) where
  length_eq := by simp [h.length_eq]
  slot_lt := by
    intro j hj
    rw [List.length_append, List.length_singleton]
    rcases List.mem_append.mp hj with hj | hj
    · exact Nat.lt_succ_of_lt (h.slot_lt j hj)
    · rw [List.mem_singleton] at hj
      omega
  slot_used := by
    intro j hj
    rw [List.length_append, List.length_singleton] at hj
    rcases Nat.lt_succ_iff_lt_or_eq.mp hj with hj | rfl
    · exact List.mem_append_left _ (h.slot_used j hj)
    · simp
  serves := by
    intro j u hu
    rw [membersAt_append h.length_eq]
    by_cases hj : j < tokens.length
    · rw [List.getElem?_append_left hj] at hu
      rw [if_neg (by omega), List.append_nil]
      exact h.serves j u hu
    · have hjt : j = tokens.length := by
        have hlt := (List.getElem?_eq_some_iff.mp hu).1
        rw [List.length_append, List.length_singleton] at hlt
        omega
      subst hjt
      rw [List.getElem?_concat_length] at hu
      cases hu
      rw [membersAt_eq_nil fun hmem => Nat.lt_irrefl _ (h.slot_lt _ hmem), if_pos rfl]
      exact ht

/-- Every need has a token that serves it. -/
theorem exists_serves (h : Grouping needs slots tokens) {n : PermissionNeed} (hn : n ∈ needs) :
    ∃ k t, tokens[k]? = some t ∧ n ∈ membersAt needs slots k := by
  obtain ⟨i, hi, rfl⟩ := List.getElem_of_mem hn
  have hi' : i < slots.length := h.length_eq ▸ hi
  have hk : slots[i] < tokens.length := h.slot_lt _ (List.getElem_mem hi')
  refine ⟨slots[i], tokens[slots[i]], List.getElem?_eq_getElem hk, ?_⟩
  refine List.mem_map.mpr ⟨(needs[i], slots[i]), List.mem_filter.mpr ⟨?_, by simp⟩, rfl⟩
  rw [← List.getElem_zip (h := by rw [List.length_zip]; omega)]
  exact List.getElem_mem _

end Grouping

/-! ## Placing needs -/

namespace TokenStore

/-- The slots of needs that are placed one after the other. -/
def slots (s : TokenStore) : List PermissionNeed → List Nat
  | [] => []
  | n :: rest => s.slot n :: (s.place n).slots rest

theorem join?_eq_some {n : PermissionNeed} {groups groups' : List TokenGroup}
    (h : join? n groups = some groups') :
    ∃ g, groups[groups.findIdx (joins n)]? = some g ∧ joins n g = true ∧
      groups' = groups.set (groups.findIdx (joins n)) (g.absorb n) := by
  induction groups generalizing groups' with
  | nil => simp [join?] at h
  | cons g rest ih =>
      unfold join? at h
      by_cases hj : joins n g = true
      · rw [if_pos hj] at h
        cases h
        exact ⟨g, by simp [List.findIdx_cons, hj]⟩
      · rw [if_neg hj] at h
        obtain ⟨rest', hrest, rfl⟩ := Option.map_eq_some_iff.mp h
        obtain ⟨g', hk, hj', rfl⟩ := ih hrest
        have hidx : (g :: rest).findIdx (joins n) = rest.findIdx (joins n) + 1 := by
          simp [List.findIdx_cons, hj]
        rw [hidx]
        exact ⟨g', hk, hj', rfl⟩

theorem join?_eq_none {n : PermissionNeed} {groups : List TokenGroup}
    (h : join? n groups = none) : ∀ g ∈ groups, joins n g = false := by
  induction groups with
  | nil => simp
  | cons g rest ih =>
      unfold join? at h
      by_cases hj : joins n g = true
      · rw [if_pos hj] at h
        cases h
      · rw [if_neg hj, Option.map_eq_none_iff] at h
        simp only [Bool.not_eq_true] at hj
        exact List.forall_mem_cons.mpr ⟨hj, ih h⟩

/-- A need changes the group at its slot, or starts one there. -/
theorem place_cases (s : TokenStore) (n : PermissionNeed) :
    (∃ g, s.groups[s.slot n]? = some g ∧ joins n g = true ∧
        s.place n = { s with groups := s.groups.set (s.slot n) (g.absorb n) }) ∨
      ((∀ g ∈ s.groups, joins n g = false) ∧ s.slot n = s.groups.length ∧
        s.place n = s.create n) := by
  unfold place
  split
  next groups hjoin =>
    obtain ⟨g, hg, hj, rfl⟩ := join?_eq_some hjoin
    exact .inl ⟨g, hg, hj, rfl⟩
  next hnone =>
    have hfree := join?_eq_none hnone
    exact .inr ⟨hfree, List.findIdx_eq_length.mpr hfree, rfl⟩

/-- Placing a need that does not contradict itself gives it its slot and moves no other. -/
theorem place_grouping {s : TokenStore} {needs : List PermissionNeed} {slots : List Nat}
    (h : Grouping needs slots s.requirements) {n : PermissionNeed} (hn : ¬ n.SelfConflicting) :
    Grouping (needs ++ [n]) (slots ++ [s.slot n]) (s.place n).requirements := by
  rcases place_cases s n with ⟨g, hg, hj, hplace⟩ | ⟨-, hslot, hplace⟩
  · have hk : s.requirements[s.slot n]? = some g.requirement := by
      rw [requirements, List.getElem?_map, hg]
      rfl
    rw [hplace]
    simp only [requirements, List.map_set]
    apply h.join (List.getElem?_eq_some_iff.mp hk).1
    exact (h.serves _ _ hk).absorb (TokenGroup.accepts_of_joins hj) hn
  · have hlast : s.slot n = s.requirements.length := by
      rw [hslot, requirements, List.length_map]
    rw [hplace, hlast]
    simp only [create, nextName, requirements, List.map_append, List.map_cons, List.map_nil]
    apply h.create
    have hfresh := TokenRequirement.Serves.nil (tokenName s.stem (s.made + 1).toNat)
    exact hfresh.absorb (by simp [TokenGroup.accepts]) hn

theorem add_of_not_selfConflicting {s : TokenStore} {n : PermissionNeed}
    (h : ¬ n.SelfConflicting) : s.add n = .ok (s.place n) := by
  rw [add, if_pos (PermissionNeed.conflicts_isEmpty_iff.mpr h)]

theorem add_of_selfConflicting {s : TokenStore} {n : PermissionNeed} (h : n.SelfConflicting) :
    s.add n = .error (.selfConflict n.id n.conflicts) := by
  rw [add, if_neg fun he => PermissionNeed.conflicts_isEmpty_iff.mp he h]

/-- Needs are all placed if the first does not contradict itself and the others follow it. -/
theorem addAll_cons_eq_ok {s s' : TokenStore} {n : PermissionNeed} {rest : List PermissionNeed} :
    s.addAll (n :: rest) = .ok s' ↔ ¬ n.SelfConflicting ∧ (s.place n).addAll rest = .ok s' := by
  rw [addAll]
  by_cases hn : n.SelfConflicting
  · rw [add_of_selfConflicting hn]
    simp [hn]
  · rw [add_of_not_selfConflicting hn]
    simp [hn]

/-- Needs that are all placed extend a grouping, and none of them contradicts itself. -/
theorem addAll_grouping {s s' : TokenStore} {done needs : List PermissionNeed} {slots : List Nat}
    (h : Grouping done slots s.requirements) (hs : s.addAll needs = .ok s') :
    (∀ n ∈ needs, ¬ n.SelfConflicting) ∧
      Grouping (done ++ needs) (slots ++ s.slots needs) s'.requirements := by
  induction needs generalizing s done slots with
  | nil =>
      cases hs
      simpa [TokenStore.slots] using h
  | cons n rest ih =>
      obtain ⟨hn, hs⟩ := addAll_cons_eq_ok.mp hs
      obtain ⟨hrest, hgroup⟩ := ih (place_grouping h hn) hs
      refine ⟨List.forall_mem_cons.mpr ⟨hn, hrest⟩, ?_⟩
      simpa [TokenStore.slots, List.append_assoc] using hgroup

/-- Placing fails at the first need that contradicts itself. -/
theorem addAll_error {s : TokenStore} {needs : List PermissionNeed} {e : PermissionError}
    (h : s.addAll needs = .error e) :
    ∃ front n back, needs = front ++ n :: back ∧ (∀ m ∈ front, ¬ m.SelfConflicting) ∧
      n.SelfConflicting ∧ e = .selfConflict n.id n.conflicts := by
  induction needs generalizing s with
  | nil => cases h
  | cons n rest ih =>
      unfold addAll at h
      by_cases hn : n.SelfConflicting
      · rw [add_of_selfConflicting hn] at h
        cases h
        exact ⟨[], n, rest, rfl, by simp, hn, rfl⟩
      · rw [add_of_not_selfConflicting hn] at h
        obtain ⟨front, m, back, rfl, hfront, hm, he⟩ := ih h
        exact ⟨n :: front, m, back, rfl, List.forall_mem_cons.mpr ⟨hn, hfront⟩, hm, he⟩

/-! ## Resolving -/

/-- The tokens are those of the store in which all needs are placed. -/
theorem resolve_eq_ok {stem : String} {needs : List PermissionNeed}
    {tokens : List TokenRequirement} :
    resolve stem needs = .ok tokens ↔
      ∃ s, (new stem).addAll needs = .ok s ∧ s.requirements = tokens := by
  unfold resolve
  cases (new stem).addAll needs with
  | error e => simp
  | ok s => simp

/-- Needs that are all placed are grouped at their slots. -/
theorem resolve_grouping {stem : String} {needs : List PermissionNeed}
    {tokens : List TokenRequirement} (h : resolve stem needs = .ok tokens) :
    (∀ n ∈ needs, ¬ n.SelfConflicting) ∧ Grouping needs ((new stem).slots needs) tokens := by
  obtain ⟨s, hs, rfl⟩ := resolve_eq_ok.mp h
  have hnothing : Grouping [] [] (new stem).requirements := .nil
  simpa using addAll_grouping hnothing hs

/-- What comes of needs that are all placed. -/
theorem resolve_ok_grouping {stem : String} {needs : List PermissionNeed}
    {tokens : List TokenRequirement} (h : resolve stem needs = .ok tokens) :
    (∀ n ∈ needs, ¬ n.SelfConflicting) ∧ ∃ slots, Grouping needs slots tokens := by
  obtain ⟨hneeds, hgroup⟩ := resolve_grouping h
  exact ⟨hneeds, _, hgroup⟩

theorem resolve_error {stem : String} {needs : List PermissionNeed} {e : PermissionError}
    (h : resolve stem needs = .error e) :
    ∃ front n back, needs = front ++ n :: back ∧ (∀ m ∈ front, ¬ m.SelfConflicting) ∧
      n.SelfConflicting ∧ e = .selfConflict n.id n.conflicts := by
  unfold resolve at h
  split at h
  next e' he =>
    cases h
    exact addAll_error he
  · cases h

/-- **Grouping or conflict.** Needs are refused exactly when one of them contradicts itself, and
then the first that does is reported with its conflicting codes. Otherwise every need has one slot
in the tokens, and each token serves the needs at its slot: it lists them in their order, its codes
are the ordered union of theirs, and none of its codes clashes with one of theirs. -/
theorem resolve_grouping_or_conflict (stem : String) (needs : List PermissionNeed) :
    ((∃ e, resolve stem needs = .error e) ↔ ∃ n ∈ needs, n.SelfConflicting) ∧
    (∀ e, resolve stem needs = .error e →
      ∃ front n back, needs = front ++ n :: back ∧ (∀ m ∈ front, ¬ m.SelfConflicting) ∧
        n.SelfConflicting ∧ e = .selfConflict n.id n.conflicts) ∧
    ((∀ n ∈ needs, ¬ n.SelfConflicting) →
      ∃ tokens slots, resolve stem needs = .ok tokens ∧ Grouping needs slots tokens) := by
  refine ⟨⟨?_, ?_⟩, fun _ => resolve_error, ?_⟩
  · rintro ⟨e, he⟩
    obtain ⟨front, n, back, rfl, -, hn, -⟩ := resolve_error he
    exact ⟨n, by simp, hn⟩
  · rintro ⟨n, hn, hconf⟩
    cases hres : resolve stem needs with
    | error e => exact ⟨e, rfl⟩
    | ok tokens => exact absurd hconf ((resolve_ok_grouping hres).1 n hn)
  · intro hnone
    cases hres : resolve stem needs with
    | error e =>
        obtain ⟨front, n, back, rfl, -, hn, -⟩ := resolve_error hres
        exact absurd hn (hnone n (by simp))
    | ok tokens =>
        obtain ⟨-, slots, hslots⟩ := resolve_ok_grouping hres
        exact ⟨tokens, slots, rfl, hslots⟩

example :
    resolve "account" [⟨"t1", ["B", "A"], ["", "C"]⟩, ⟨"t2", [], ["A"]⟩, ⟨"t3", ["A"], []⟩] =
      .ok [
        { name := "accountToken0001", ids := ["t1", "t3"], required := ["A", "B"],
          excluded := ["C"] },
        { name := "accountToken0002", ids := ["t2"], excluded := ["A"] }] := by
  rfl

end TokenStore

end Conformance
