import Conformance.Proofs.Token.FirstFit
import Conformance.Proofs.Token.Naming
import Mathlib.Data.List.Sort

/-!
# Tokens stay as they are

The tokens that needs are grouped into can be needs themselves (`TokenRequirement.ownNeed`).
`resolve_fixpoint` says that grouping these again gives every token back, with its own need for its
only member, and why: each token keeps out the needs of all that come after it, so that no two of
them could be one.

A token is kept out by whatever keeps out all of its members (`KeepsOut.ownNeed`), and first fit is
final. A token without codes is no exception, since all in front of it have some.
-/

namespace Conformance

namespace TokenRequirement

/-- The need for a token with the codes of this one. -/
def ownNeed (t : TokenRequirement) : PermissionNeed := ⟨t.name, t.required, t.excluded⟩

/-- The token with its own need for its only member. -/
def alone (t : TokenRequirement) : TokenRequirement := { t with ids := [t.name] }

variable {t u : TokenRequirement} {members : List PermissionNeed}

theorem Serves.ownNeed_consistent (h : t.Serves members) : ¬ t.ownNeed.SelfConflicting := by
  rintro ⟨c, hc, hc'⟩
  exact (h.required_free c hc).1 hc'

/-- What keeps out all members of a token keeps out the need for the token. -/
theorem KeepsOut.ownNeed {others : List PermissionNeed} (ht : t.Serves others)
    (hu : u.Serves members) (hmembers : members ≠ []) (h : ∀ n ∈ members, t.KeepsOut n) :
    t.KeepsOut u.ownNeed where
  clash := by
    intro hcodes
    -- A member that declares a code of the token clashes, and its code has gone into the token.
    have hdeclares : ∃ n ∈ members, ¬ (n.required = [] ∧ n.excluded = []) := by
      by_contra hnone
      push Not at hnone
      apply hcodes
      constructor
      · apply List.eq_nil_iff_forall_not_mem.mpr
        intro c hc
        obtain ⟨-, n, hn, hcn⟩ := (hu.mem_required c).mp hc
        rw [(hnone n hn).1] at hcn
        cases hcn
      · apply List.eq_nil_iff_forall_not_mem.mpr
        intro c hc
        obtain ⟨-, n, hn, hcn⟩ := (hu.mem_excluded c).mp hc
        rw [(hnone n hn).2] at hcn
        cases hcn
    obtain ⟨n, hn, hdecl⟩ := hdeclares
    obtain ⟨c, ⟨hc, hcn⟩ | ⟨hc, hcn⟩⟩ := (h n hn).clash hdecl
    · have hne := ((ht.mem_required c).mp hc).1
      exact ⟨c, .inl ⟨hc, (hu.mem_excluded c).mpr ⟨hne, n, hn, hcn⟩⟩⟩
    · have hne := ((ht.mem_excluded c).mp hc).1
      exact ⟨c, .inr ⟨hc, (hu.mem_required c).mpr ⟨hne, n, hn, hcn⟩⟩⟩
  restricted := by
    intro _
    obtain ⟨n, hn⟩ := List.exists_mem_of_ne_nil members hmembers
    exact (h n hn).exists_code

end TokenRequirement

namespace TokenGroup

/-- The group with the need for its token as its only member. -/
def alone (g : TokenGroup) : TokenGroup := { g with ids := [g.name] }

theorem insertCodes_ordered {codes : List String} (hordered : codes.Pairwise (· < ·))
    (hne : "" ∉ codes) : insertCodes codes [] = codes := by
  apply (pairwise_insertCodes .nil).eq_of_mem_iff hordered
  intro c
  rw [mem_insertCodes]
  constructor
  · rintro (⟨-, hc⟩ | hc)
    · exact hc
    · cases hc
  · intro hc
    exact .inl ⟨fun heq => hne (heq ▸ hc), hc⟩

/-- A group that is started by the need for a token has the codes of the token. -/
theorem absorb_ownNeed {g : TokenGroup} {members : List PermissionNeed}
    (h : g.requirement.Serves members) :
    TokenGroup.absorb ⟨g.name, [], [], []⟩ g.requirement.ownNeed = g.alone := by
  have hreq : insertCodes g.required [] = g.required :=
    insertCodes_ordered h.required_sorted fun hc => ((h.mem_required "").mp hc).1 rfl
  have hexc : insertCodes g.excluded [] = g.excluded :=
    insertCodes_ordered h.excluded_sorted fun hc => ((h.mem_excluded "").mp hc).1 rfl
  simp only [absorb, alone, requirement, TokenRequirement.ownNeed, hreq, hexc, List.nil_append]

end TokenGroup

/-- Every token of a grouping has a member. -/
theorem Grouping.membersAt_ne_nil {needs : List PermissionNeed} {slots : List Nat}
    {tokens : List TokenRequirement} (h : Grouping needs slots tokens) {k : Nat}
    (hk : k < tokens.length) : membersAt needs slots k ≠ [] := by
  obtain ⟨i, hi, hik⟩ := List.getElem_of_mem (h.slot_used k hk)
  have hi' : i < needs.length := h.length_eq ▸ hi
  apply List.ne_nil_of_mem (a := needs[i])
  apply List.mem_map.mpr
  refine ⟨(needs[i], slots[i]), List.mem_filter.mpr ⟨?_, by simp [hik]⟩, rfl⟩
  rw [← List.getElem_zip (h := by rw [List.length_zip]; omega)]
  exact List.getElem_mem _

namespace TokenStore

variable {stem : String} {needs : List PermissionNeed} {tokens : List TokenRequirement}

/-- Each token keeps out the needs for those after it. -/
theorem pairwise_keepsOut (h : resolve stem needs = .ok tokens) :
    tokens.Pairwise fun t u => t.KeepsOut u.ownNeed := by
  have hgroup := (resolve_grouping h).2
  rw [List.pairwise_iff_getElem]
  intro i j hi hj hij
  have ht := hgroup.serves i _ (List.getElem?_eq_getElem hi)
  have hu := hgroup.serves j _ (List.getElem?_eq_getElem hj)
  apply TokenRequirement.KeepsOut.ownNeed ht hu (hgroup.membersAt_ne_nil hj)
  intro n hn
  obtain ⟨t, htoken, hout⟩ := keepsOut_of_mem_membersAt h hn hij
  rw [List.getElem?_eq_getElem hi] at htoken
  cases htoken
  exact hout

theorem place_of_keptOut {s : TokenStore} {n : PermissionNeed}
    (h : ∀ g ∈ s.groups, g.requirement.KeepsOut n) : s.place n = s.create n := by
  rcases place_cases s n with ⟨g, hg, hjoins, -⟩ | ⟨-, -, hplace⟩
  · have hout := TokenGroup.joins_eq_false_iff.mpr (h g (List.mem_of_getElem? hg))
    rw [hjoins] at hout
    cases hout
  · exact hplace

/-- Tokens each of which keeps out the needs for those after it start as many groups again. -/
theorem addAll_ownNeeds {s : TokenStore} (front : List TokenGroup) {rest : List TokenGroup}
    (hgroups : s.groups = front.map TokenGroup.alone)
    (hmade : s.made = UInt32.ofNat front.length)
    (hnames : rest.map TokenGroup.name =
      (List.range' (front.length + 1) rest.length).map fun number =>
        tokenName s.stem (number % 2 ^ 32))
    (hserves : ∀ g ∈ rest, ∃ members, g.requirement.Serves members)
    (hout : (front ++ rest).Pairwise fun f g => f.requirement.KeepsOut g.requirement.ownNeed) :
    ∃ s', s.addAll (rest.map fun g => g.requirement.ownNeed) = .ok s' ∧
      s'.groups = (front ++ rest).map TokenGroup.alone := by
  induction rest generalizing s front with
  | nil => exact ⟨s, rfl, by rw [hgroups, List.append_nil]⟩
  | cons g rest ih =>
      obtain ⟨⟨members, hg⟩, hrest⟩ := List.forall_mem_cons.mp hserves
      rw [List.map_cons, List.length_cons, List.range'_succ, List.map_cons] at hnames
      obtain ⟨hname, hnames⟩ := List.cons.inj hnames
      rw [← toNat_count_succ, ← hmade] at hname
      have hplace : s.place g.requirement.ownNeed = s.create g.requirement.ownNeed := by
        apply place_of_keptOut
        rw [hgroups]
        intro a ha
        obtain ⟨f, hf, rfl⟩ := List.mem_map.mp ha
        have hfg := (List.pairwise_append.mp hout).2.2 f hf g List.mem_cons_self
        exact hfg.mono ⟨fun _ hc => hc, fun _ hc => hc⟩
      have hcreated :
          (s.create g.requirement.ownNeed).groups = (front ++ [g]).map TokenGroup.alone := by
        simp only [create, nextName, ← hname, TokenGroup.absorb_ownNeed hg, hgroups,
          List.map_append, List.map_cons, List.map_nil]
      have hlength : (front ++ [g]).length = front.length + 1 := by simp
      have hcounted : (s.create g.requirement.ownNeed).made =
          UInt32.ofNat (front ++ [g]).length := by
        rw [hlength, ofNat_count_succ, ← hmade]
        rfl
      obtain ⟨s', hs', hgroups'⟩ :=
        ih (front ++ [g]) hcreated hcounted (by rwa [hlength]) hrest (by simpa using hout)
      refine ⟨s', ?_, by simpa using hgroups'⟩
      rw [List.map_cons, addAll_cons_eq_ok, hplace]
      exact ⟨hg.ownNeed_consistent, hs'⟩

/-- **Tokens stay as they are.** Grouping the needs for the tokens that needs are grouped into gives
the same tokens in the same order, each with its own need for its only member; and no two of them
could be one, as each keeps out the needs for those after it. -/
theorem resolve_fixpoint (h : resolve stem needs = .ok tokens) :
    resolve stem (tokens.map TokenRequirement.ownNeed) =
        .ok (tokens.map TokenRequirement.alone) ∧
      tokens.Pairwise fun t u => t.KeepsOut u.ownNeed := by
  have hout := pairwise_keepsOut h
  refine ⟨?_, hout⟩
  have hgroup := (resolve_grouping h).2
  have hnumbered := resolve_names h
  obtain ⟨s, hs, rfl⟩ := resolve_eq_ok.mp h
  have hserves : ∀ g ∈ s.groups, ∃ members, g.requirement.Serves members := by
    intro g hg
    obtain ⟨k, hk, hkg⟩ := List.getElem_of_mem hg
    refine ⟨_, hgroup.serves k _ ?_⟩
    rw [requirements, List.getElem?_map, List.getElem?_eq_getElem hk, hkg]
    rfl
  have hnames : s.groups.map TokenGroup.name =
      (List.range' 1 s.groups.length).map fun number => tokenName stem (number % 2 ^ 32) := by
    simpa [requirements, numbered, Function.comp_def, TokenGroup.requirement] using hnumbered
  obtain ⟨s', hs', hgroups⟩ :=
    addAll_ownNeeds (s := new stem) [] rfl rfl hnames hserves (List.pairwise_map.mp hout)
  have hneeds : s.requirements.map TokenRequirement.ownNeed =
      s.groups.map fun g => g.requirement.ownNeed := by
    rw [requirements, List.map_map]
    rfl
  apply resolve_eq_ok.mpr
  refine ⟨s', hneeds ▸ hs', ?_⟩
  simp only [requirements, hgroups, List.nil_append, List.map_map]
  rfl

theorem sampleNeeds_regrouped :
    resolve "account" sampleNeeds = .ok sampleTokens ∧
      resolve "account" (sampleTokens.map TokenRequirement.ownNeed) =
        .ok (sampleTokens.map TokenRequirement.alone) ∧
      sampleTokens.Pairwise fun t u => t.KeepsOut u.ownNeed := by
  have htokens : resolve "account" sampleNeeds = .ok sampleTokens := by rfl
  exact ⟨htokens, resolve_fixpoint htokens⟩

end TokenStore

end Conformance
