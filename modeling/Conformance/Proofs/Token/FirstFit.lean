import Conformance.Proofs.Token.Grouping

/-!
# First fit

A need is placed by what the groups hold at that moment. `resolve_first_fit` says that the choice is
final: the groups in front of the one that a need has joined keep it out with all that they come to
hold in the end.

Two facts carry this. A group is never emptied or moved: what it holds, its successor at the same
slot holds too (`addAll_grows`). And a group that keeps a need out still does so when it holds more
(`TokenRequirement.KeepsOut.mono`), whether the need declares codes or not.
-/

namespace Conformance

/-- Whether a token keeps a need out. -/
structure TokenRequirement.KeepsOut (t : TokenRequirement) (n : PermissionNeed) : Prop where
  /-- A need that declares codes has one that clashes with the token. -/
  clash : ¬ (n.required = [] ∧ n.excluded = []) →
    ∃ c, c ∈ t.required ∧ c ∈ n.excluded ∨ c ∈ t.excluded ∧ c ∈ n.required
  /-- For a need that declares none, the token has a code. -/
  restricted : n.required = [] ∧ n.excluded = [] → ∃ c, c ∈ t.required ∨ c ∈ t.excluded

/-- Whether a token holds all the codes of another one. -/
structure TokenRequirement.GrowsTo (t u : TokenRequirement) : Prop where
  required : t.required ⊆ u.required
  excluded : t.excluded ⊆ u.excluded

namespace TokenRequirement

variable {t u v : TokenRequirement}

theorem GrowsTo.refl (t : TokenRequirement) : t.GrowsTo t := ⟨fun _ h => h, fun _ h => h⟩

theorem GrowsTo.trans (h : t.GrowsTo u) (h' : u.GrowsTo v) : t.GrowsTo v :=
  ⟨fun _ hc => h'.required (h.required hc), fun _ hc => h'.excluded (h.excluded hc)⟩

theorem GrowsTo.exists_code (h : t.GrowsTo u) (ht : ∃ c, c ∈ t.required ∨ c ∈ t.excluded) :
    ∃ c, c ∈ u.required ∨ c ∈ u.excluded := by
  obtain ⟨c, hc | hc⟩ := ht
  · exact ⟨c, .inl (h.required hc)⟩
  · exact ⟨c, .inr (h.excluded hc)⟩

/-- A token that keeps a need out still does so when it has more codes. -/
theorem KeepsOut.mono {n : PermissionNeed} (h : t.KeepsOut n) (hgrows : t.GrowsTo u) :
    u.KeepsOut n where
  clash := by
    intro hn
    obtain ⟨c, ⟨hc, hcn⟩ | ⟨hc, hcn⟩⟩ := h.clash hn
    · exact ⟨c, .inl ⟨hgrows.required hc, hcn⟩⟩
    · exact ⟨c, .inr ⟨hgrows.excluded hc, hcn⟩⟩
  restricted := by
    intro hn
    exact hgrows.exists_code (h.restricted hn)

/-- A token without codes keeps no need out. -/
theorem KeepsOut.exists_code {n : PermissionNeed} (h : t.KeepsOut n) :
    ∃ c, c ∈ t.required ∨ c ∈ t.excluded := by
  by_cases hcodes : n.required = [] ∧ n.excluded = []
  · exact h.restricted hcodes
  · obtain ⟨c, ⟨hc, -⟩ | ⟨hc, -⟩⟩ := h.clash hcodes
    · exact ⟨c, .inl hc⟩
    · exact ⟨c, .inr hc⟩

end TokenRequirement

namespace TokenGroup

variable {g : TokenGroup} {n : PermissionNeed}

theorem growsTo_absorb (g : TokenGroup) (n : PermissionNeed) :
    g.requirement.GrowsTo (g.absorb n).requirement where
  required := by
    intro c hc
    exact mem_insertCodes.mpr (.inr hc)
  excluded := by
    intro c hc
    exact mem_insertCodes.mpr (.inr hc)

theorem accepts_eq_false_iff :
    g.accepts n = false ↔
      ∃ c, c ∈ g.required ∧ c ∈ n.excluded ∨ c ∈ g.excluded ∧ c ∈ n.required := by
  rw [accepts, Bool.and_eq_false_iff, Bool.not_eq_false', Bool.not_eq_false', exists_or]
  simp

theorem isUnrestricted_eq_false_iff :
    g.isUnrestricted = false ↔ ∃ c, c ∈ g.required ∨ c ∈ g.excluded := by
  rw [isUnrestricted, Bool.and_eq_false_iff, List.isEmpty_eq_false_iff_exists_mem,
    List.isEmpty_eq_false_iff_exists_mem, exists_or]

/-- A need does not join a group exactly if the token of the group keeps it out. -/
theorem joins_eq_false_iff : TokenStore.joins n g = false ↔ g.requirement.KeepsOut n := by
  have hnone : n.isUnrestricted = true ↔ n.required = [] ∧ n.excluded = [] := by
    simp [PermissionNeed.isUnrestricted]
  unfold TokenStore.joins
  by_cases hn : n.isUnrestricted = true
  · rw [if_pos hn, isUnrestricted_eq_false_iff]
    constructor
    · intro h
      exact ⟨fun hcodes => absurd (hnone.mp hn) hcodes, fun _ => h⟩
    · intro h
      exact h.restricted (hnone.mp hn)
  · rw [if_neg hn, accepts_eq_false_iff]
    constructor
    · intro h
      exact ⟨fun _ => h, fun hcodes => absurd (hnone.mpr hcodes) hn⟩
    · intro h
      exact h.clash fun hcodes => hn (hnone.mpr hcodes)

end TokenGroup

namespace TokenStore

variable {s s' : TokenStore} {needs : List PermissionNeed} {t : TokenRequirement}

/-! ## Groups grow in place -/

theorem place_grows {j : Nat} (n : PermissionNeed) (ht : s.requirements[j]? = some t) :
    ∃ u, (s.place n).requirements[j]? = some u ∧ t.GrowsTo u := by
  rcases place_cases s n with ⟨g, hg, -, hplace⟩ | ⟨-, -, hplace⟩
  · rw [hplace]
    simp only [requirements, List.map_set]
    by_cases hj : s.slot n = j
    · subst hj
      rw [requirements, List.getElem?_map, hg] at ht
      cases ht
      have hlt : s.slot n < (s.groups.map TokenGroup.requirement).length := by
        rw [List.length_map]
        exact (List.getElem?_eq_some_iff.mp hg).1
      exact ⟨_, List.getElem?_set_self hlt, TokenGroup.growsTo_absorb g n⟩
    · rw [List.getElem?_set_ne hj]
      exact ⟨t, ht, .refl t⟩
  · rw [hplace]
    simp only [create, nextName, requirements, List.map_append]
    have hlt := (List.getElem?_eq_some_iff.mp ht).1
    exact ⟨t, (List.getElem?_append_left hlt).trans ht, .refl t⟩

theorem addAll_grows {j : Nat} (hs : s.addAll needs = .ok s')
    (ht : s.requirements[j]? = some t) :
    ∃ u, s'.requirements[j]? = some u ∧ t.GrowsTo u := by
  induction needs generalizing s t with
  | nil =>
      cases hs
      exact ⟨t, ht, .refl t⟩
  | cons n rest ih =>
      obtain ⟨-, hs⟩ := addAll_cons_eq_ok.mp hs
      obtain ⟨u, hu, hgrows⟩ := place_grows n ht
      obtain ⟨v, hv, hgrows'⟩ := ih hs hu
      exact ⟨v, hv, hgrows.trans hgrows'⟩

/-! ## The groups in front of a slot -/

/-- Those in front of the slot of a need keep it out when it is placed. -/
theorem keepsOut_of_lt_slot {j : Nat} {n : PermissionNeed} (hj : j < s.slot n) :
    ∃ t, s.requirements[j]? = some t ∧ t.KeepsOut n := by
  have hlt : j < s.groups.length := Nat.lt_of_lt_of_le hj List.findIdx_le_length
  refine ⟨s.groups[j].requirement, ?_, ?_⟩
  · rw [requirements, List.getElem?_map, List.getElem?_eq_getElem hlt]
    rfl
  · apply TokenGroup.joins_eq_false_iff.mp
    exact List.not_of_lt_findIdx hj

/-- They still do when the needs that follow are placed too. -/
theorem addAll_first_fit (hs : s.addAll needs = .ok s') :
    ∀ p ∈ needs.zip (s.slots needs), ∀ j < p.2,
      ∃ t, s'.requirements[j]? = some t ∧ t.KeepsOut p.1 := by
  induction needs generalizing s with
  | nil => simp
  | cons n rest ih =>
      obtain ⟨-, hrest⟩ := addAll_cons_eq_ok.mp hs
      intro p hp j hj
      rw [slots, List.zip_cons_cons] at hp
      rcases List.mem_cons.mp hp with rfl | hp
      -- The first need is kept out where it is placed, and the needs after it only add codes.
      · obtain ⟨t, ht, hout⟩ := keepsOut_of_lt_slot hj
        obtain ⟨u, hu, hgrows⟩ := addAll_grows hs ht
        exact ⟨u, hu, hout.mono hgrows⟩
      · exact ih hrest p hp j hj

theorem mem_zip_of_mem_membersAt {slots : List Nat} {k : Nat} {n : PermissionNeed}
    (h : n ∈ membersAt needs slots k) : (n, k) ∈ needs.zip slots := by
  obtain ⟨⟨m, j⟩, hp, rfl⟩ := List.mem_map.mp h
  obtain ⟨hmem, hj⟩ := List.mem_filter.mp hp
  have hjk : j = k := by simpa using hj
  exact hjk ▸ hmem

/-- In the end the tokens in front of a slot keep out the needs that were placed there. -/
theorem keepsOut_of_mem_membersAt {stem : String} {tokens : List TokenRequirement}
    (h : resolve stem needs = .ok tokens) {j k : Nat} {n : PermissionNeed}
    (hn : n ∈ membersAt needs ((new stem).slots needs) k) (hj : j < k) :
    ∃ t, tokens[j]? = some t ∧ t.KeepsOut n := by
  obtain ⟨s, hs, rfl⟩ := resolve_eq_ok.mp h
  exact addAll_first_fit hs (n, k) (mem_zip_of_mem_membersAt hn) j hj

/-- **First fit is final.** Needs that are all placed are grouped at their slots, and whatever the
tokens in front of a slot come to hold, each of them keeps out every need that was placed there: one
that declares codes clashes with it, and for one that declares none it has a code. -/
theorem resolve_first_fit {stem : String} {needs : List PermissionNeed}
    {tokens : List TokenRequirement} (h : resolve stem needs = .ok tokens) :
    Grouping needs ((new stem).slots needs) tokens ∧
      ∀ k, ∀ n ∈ membersAt needs ((new stem).slots needs) k, ∀ j < k,
        ∃ t, tokens[j]? = some t ∧ t.KeepsOut n := by
  constructor
  · exact (resolve_grouping h).2
  · intro k n hn j hj
    exact keepsOut_of_mem_membersAt h hn hj

/-- Needs of both kinds. The third has joined a group without codes, which the fifth closes; the
first group gains the code that keeps the fifth out from the fourth. -/
def sampleNeeds : List PermissionNeed :=
  [⟨"t1", ["A"], [""]⟩, ⟨"t2", [], ["A"]⟩, ⟨"t3", [], []⟩, ⟨"t4", ["B"], []⟩, ⟨"t5", ["A"], ["B"]⟩,
    ⟨"t6", [], []⟩]

/-- The tokens that they share. -/
def sampleTokens : List TokenRequirement :=
  [{ name := "accountToken0001", ids := ["t1", "t4"], required := ["A", "B"] },
    { name := "accountToken0002", ids := ["t2"], excluded := ["A"] },
    { name := "accountToken0003", ids := ["t3", "t5"], required := ["A"], excluded := ["B"] },
    { name := "accountToken0004", ids := ["t6"] }]

theorem sampleNeeds_keptOut :
    resolve "account" sampleNeeds = .ok sampleTokens ∧
      ⟨"t5", ["A"], ["B"]⟩ ∈ membersAt sampleNeeds ((new "account").slots sampleNeeds) 2 ∧
      ∃ t, sampleTokens[0]? = some t ∧ t.KeepsOut ⟨"t5", ["A"], ["B"]⟩ := by
  have htokens : resolve "account" sampleNeeds = .ok sampleTokens := by rfl
  have hslot :
      ⟨"t5", ["A"], ["B"]⟩ ∈ membersAt sampleNeeds ((new "account").slots sampleNeeds) 2 := by
    decide
  exact ⟨htokens, hslot, (resolve_first_fit htokens).2 2 _ hslot 0 (by decide)⟩

end TokenStore

end Conformance
