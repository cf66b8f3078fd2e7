import Conformance.Consent.Acquisition
import Conformance.Proofs.Token.Naming
import Conformance.Token.Plan
import Mathlib.Data.List.Nodup

/-!
# Distinct names of tokens

A name tells the family and the number of its token (`tokenName_inj`), and each specification numbers
its tokens from one on (`requiredTokens_names`). So the names in a suite are distinct exactly as long
as no two specifications of one family need tokens and no counter begins again (`tokenNames_nodup_iff`).
Two versions of one interface, for instance, have the first name in common (`twoVersions_names`).
-/

namespace Conformance

/-! ## What a name tells -/

/-- The names of a family's tokens have a first letter of their own. -/
theorem SpecType.eq_of_head?_tokenStem {f g : SpecType}
    (h : f.tokenStem.toList.head? = g.tokenStem.toList.head?) : f = g := by
  revert h
  cases f <;> cases g <;> decide

theorem TokenStore.head?_tokenName (f : SpecType) (number : Nat) :
    (tokenName f.tokenStem number).toList.head? = f.tokenStem.toList.head? := by
  rw [toList_tokenName]
  cases f <;> rfl

/-- Two names are the same only for one family and one number. -/
theorem TokenStore.tokenName_inj {f g : SpecType} {m n : Nat}
    (h : tokenName f.tokenStem m = tokenName g.tokenStem n) : f = g ∧ m = n := by
  have hfamily : f = g := by
    refine SpecType.eq_of_head?_tokenStem ?_
    rw [← head?_tokenName f m, ← head?_tokenName g n, h]
  subst hfamily
  exact ⟨rfl, tokenName_injective f.tokenStem h⟩

namespace TokenStore

/-- Rows of names overlap when they are of one family, since every row begins with the number one. -/
theorem disjoint_numbered_iff {f g : SpecType} {m n : Nat} :
    (numbered f.tokenStem m).Disjoint (numbered g.tokenStem n) ↔ m ≠ 0 → n ≠ 0 → f ≠ g := by
  constructor
  · rintro hdisjoint hm hn rfl
    have hfirst : ∀ {count : Nat}, count ≠ 0 →
        tokenName f.tokenStem (1 % 2 ^ 32) ∈ numbered f.tokenStem count := fun hcount =>
      List.mem_map.mpr ⟨1, List.mem_range'_1.mpr ⟨Nat.le_refl 1, by omega⟩, rfl⟩
    exact hdisjoint (hfirst hm) (hfirst hn)
  · intro hne name hf hg
    obtain ⟨i, hi, rfl⟩ := List.mem_map.mp hf
    obtain ⟨j, hj, heq⟩ := List.mem_map.mp hg
    have hm := List.mem_range'_1.mp hi
    have hn := List.mem_range'_1.mp hj
    exact hne (by omega) (by omega) (tokenName_inj heq).1.symm

end TokenStore

/-! ## The names in a specification -/

namespace PaymentTokens

theorem names_fresh (made : Nat) (tests : List TestCase) :
    (fresh (UInt32.ofNat made) tests).map (·.name) =
      (List.range' (made + 1) tests.length).map fun number =>
        TokenStore.tokenName SpecType.payments.tokenStem (number % 2 ^ 32) := by
  induction tests generalizing made with
  | nil => rfl
  | cons t rest ih =>
      rw [fresh, List.map_cons, ← TokenStore.ofNat_count_succ, ih, List.length_cons,
        List.range'_succ, List.map_cons, UInt32.toNat_ofNat']

theorem name_withReferences (tests : List TestCase) (t : TokenRequirement) :
    (withReferences tests t).name = t.name := by
  unfold withReferences
  split <;> rfl

end PaymentTokens

theorem paymentTokens_names (tests : List TestCase) :
    (paymentTokens tests).map (·.name) =
      TokenStore.numbered SpecType.payments.tokenStem (paymentTokens tests).length := by
  have hnames : (paymentTokens tests).map (·.name) =
      TokenStore.numbered SpecType.payments.tokenStem
        (tests.filter PaymentTokens.asksConsent).length := by
    rw [paymentTokens, List.map_map]
    refine Eq.trans (List.map_congr_left fun t _ => ?_)
      (PaymentTokens.names_fresh 0 (tests.filter PaymentTokens.asksConsent))
    exact PaymentTokens.name_withReferences tests t
  have hlength := congrArg List.length hnames
  rw [TokenStore.length_numbered, List.length_map] at hlength
  rw [hlength, hnames]

/-- The tokens of a specification are numbered from one on. -/
theorem requiredTokens_names {tests : List TestCase} {f : SpecType}
    {tokens : List TokenRequirement} (h : requiredTokens tests f = .ok tokens) :
    tokens.map (·.name) = TokenStore.numbered f.tokenStem tokens.length := by
  cases f with
  | accounts => exact TokenStore.resolve_names h
  | payments =>
      cases h
      exact paymentTokens_names tests
  | funds => exact TokenStore.resolve_names h
  | notifications =>
      cases h
      rfl

theorem suiteTokens_numbered {suite : Suite} {p : SpecTokens} (h : p ∈ suiteTokens suite) :
    p.tokens.map (·.name) = TokenStore.numbered p.specType.tokenStem p.tokens.length := by
  obtain ⟨s, -, hs⟩ := List.mem_filterMap.mp h
  unfold planSpecification at hs
  split at hs
  · cases hs
  · split at hs
    · cases hs
    next tokens htokens =>
      cases hs
      exact requiredTokens_names htokens

/-! ## The names in a suite -/

/-- The names of all tokens that a suite needs. -/
def tokenNames (suite : Suite) : List String :=
  (suiteTokens suite).flatMap fun p => p.tokens.map (·.name)

/-- Whether the specifications that need tokens are of different families. -/
def FamiliesDiffer (plans : List SpecTokens) : Prop :=
  plans.Pairwise fun p q => p.tokens ≠ [] → q.tokens ≠ [] → p.specType ≠ q.specType

theorem disjoint_names_iff {suite : Suite} {p q : SpecTokens} (hp : p ∈ suiteTokens suite)
    (hq : q ∈ suiteTokens suite) :
    (p.tokens.map (·.name)).Disjoint (q.tokens.map (·.name)) ↔
      p.tokens ≠ [] → q.tokens ≠ [] → p.specType ≠ q.specType := by
  rw [suiteTokens_numbered hp, suiteTokens_numbered hq, TokenStore.disjoint_numbered_iff]
  simp only [ne_eq, List.length_eq_zero_iff]

/-- The flows of an acquisition are for some of the tokens. -/
theorem wanted_names_sublist (plans : List SpecTokens) :
    ((Acquisition.wanted plans).map (·.tokenName)).Sublist
      (plans.flatMap fun p => p.tokens.map (·.name)) := by
  unfold Acquisition.wanted
  induction plans with
  | nil => exact .slnil
  | cons p rest ih =>
      have hown : (((p.tokens.filter fun t => !t.isUnrestricted).map fun t =>
          ConsentItem.new t.name (permissionList t.required)).map (·.tokenName)).Sublist
            (p.tokens.map (·.name)) := by
        rw [List.map_map]
        exact List.filter_sublist.map _
      rw [List.flatMap_cons]
      by_cases hp : p.specType = .accounts
      · rw [List.filter_cons_of_pos (by simp [hp]), List.flatMap_cons, List.map_append]
        exact hown.append ih
      · rw [List.filter_cons_of_neg (by simp [hp])]
        exact ih.trans (List.sublist_append_right _ _)

/-- Whether no specification needs more tokens than there are numbers. -/
def NumbersSuffice (plans : List SpecTokens) : Prop := ∀ p ∈ plans, p.tokens.length ≤ 2 ^ 32

/-- **Distinct names.** Within a specification the names of tokens are distinct, unless it needs more
than there are numbers. Over a whole suite they are so exactly when, besides, no two specifications of
one family need tokens; then no two flows of an acquisition have one name, and no two tokens are referred
to by one header. -/
theorem tokenNames_nodup_iff (suite : Suite) :
    (∀ p ∈ suiteTokens suite, (p.tokens.map (·.name)).Nodup ↔ p.tokens.length ≤ 2 ^ 32) ∧
    ((tokenNames suite).Nodup ↔
      FamiliesDiffer (suiteTokens suite) ∧ NumbersSuffice (suiteTokens suite)) ∧
    (FamiliesDiffer (suiteTokens suite) → NumbersSuffice (suiteTokens suite) →
      ((Acquisition.wanted (suiteTokens suite)).map (·.tokenName)).Nodup ∧
      ((tokenNames suite).map fun name => "Bearer $" ++ name).Nodup) := by
  have hwithin : ∀ p ∈ suiteTokens suite,
      (p.tokens.map (·.name)).Nodup ↔ p.tokens.length ≤ 2 ^ 32 := by
    intro p hp
    rw [suiteTokens_numbered hp]
    exact TokenStore.nodup_numbered_iff p.specType.tokenStem p.tokens.length
  have hiff : (tokenNames suite).Nodup ↔
      FamiliesDiffer (suiteTokens suite) ∧ NumbersSuffice (suiteTokens suite) := by
    rw [tokenNames, List.nodup_flatMap]
    constructor
    · rintro ⟨hnodup, hapart⟩
      refine ⟨?_, fun p hp => (hwithin p hp).mp (hnodup p hp)⟩
      exact hapart.imp_of_mem fun hp hq hdisjoint => (disjoint_names_iff hp hq).mp hdisjoint
    · rintro ⟨hfamilies, hnumbers⟩
      refine ⟨fun p hp => (hwithin p hp).mpr (hnumbers p hp), ?_⟩
      exact hfamilies.imp_of_mem fun hp hq hne => (disjoint_names_iff hp hq).mpr hne
  refine ⟨hwithin, hiff, fun hfamilies hnumbers => ⟨?_, ?_⟩⟩
  · exact (hiff.mpr ⟨hfamilies, hnumbers⟩).sublist (wanted_names_sublist (suiteTokens suite))
  · refine (hiff.mpr ⟨hfamilies, hnumbers⟩).map ?_
    intro a b h
    have hlist := congrArg String.toList h
    rw [String.toList_append, String.toList_append] at hlist
    exact String.toList_inj.mp (List.append_cancel_left hlist)

/-- Two versions of the accounts interface with one test case each. -/
def twoVersions : Suite where
  specifications := ["v3.1", "v4.0"].map fun version =>
    { specification := { name := SpecType.accounts.publishedName, version }
      testCases := [{
        id := version ++ "-balances"
        input := { method := "GET", endpoint := "/balances" }
        context := .ofList [(TestCase.permissionsName, .texts ["ReadBalances"])] }] }

theorem twoVersions_names :
    tokenNames twoVersions = ["accountToken0001", "accountToken0001"] ∧
      ¬ (tokenNames twoVersions).Nodup := by
  have hnames : tokenNames twoVersions = ["accountToken0001", "accountToken0001"] := by rfl
  rw [hnames]
  exact ⟨rfl, by decide⟩

end Conformance
