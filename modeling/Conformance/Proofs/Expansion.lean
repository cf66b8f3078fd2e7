import Conformance.Component
import Conformance.Proofs.Expansion.Copies

/-!
# Expanding test cases

What expanding a test case or a component does to its parts (`RequestTemplate.expand_eq_ok`,
`TestCase.expand_eq_ok`, `Component.expandTests_eq_ok`). Expanding as far as a context has texts leaves
what it has no text for as it is, so this never fails (`Component.expand_succeeds`): a component is
only refused for the names that the context does not set (`Component.checkInputs_eq_ok_iff`,
`Component.checkInputs_of_missing`).
-/

namespace Conformance

/-! ## Parts -/

/-- One request is what another one is expanded to: its templates are expanded one by one, and the
method of generation stays. -/
structure RequestTemplate.Expands (ctx : Context) (mode : Expansion) (r r' : RequestTemplate) :
    Prop where
  endpoint : Template.expand ctx mode r.endpoint = .ok r'.endpoint
  headers : Template.expandMap ctx mode r.headers = .ok r'.headers
  queryParameters : Template.expandMap ctx mode r.queryParameters = .ok r'.queryParameters
  formData : Template.expandMap ctx mode r.formData = .ok r'.formData
  bodyData : Template.expandOption ctx mode r.bodyData = .ok r'.bodyData
  claims : Template.expandMap ctx mode r.claims = .ok r'.claims
  generation : r'.generation = r.generation

theorem RequestTemplate.expand_eq_ok {ctx : Context} {mode : Expansion} {r r' : RequestTemplate}
    (h : r.expand ctx mode = .ok r') : Expands ctx mode r r' := by
  unfold RequestTemplate.expand at h
  obtain ⟨method, -, h⟩ := Except.bind_eq_ok_iff.mp h
  obtain ⟨endpoint, hendpoint, h⟩ := Except.bind_eq_ok_iff.mp h
  obtain ⟨headers, hheaders, h⟩ := Except.bind_eq_ok_iff.mp h
  obtain ⟨query, hquery, h⟩ := Except.bind_eq_ok_iff.mp h
  obtain ⟨form, hform, h⟩ := Except.bind_eq_ok_iff.mp h
  obtain ⟨body, hbody, h⟩ := Except.bind_eq_ok_iff.mp h
  obtain ⟨claims, hclaims, h⟩ := Except.bind_eq_ok_iff.mp h
  cases h
  exact ⟨hendpoint, hheaders, hquery, hform, hbody, hclaims, rfl⟩

namespace TestCase

/-- The request and the extractions of an expanded test case are expanded. -/
theorem expand_eq_ok {ctx : Context} {mode : Expansion} {t t' : TestCase}
    (h : t.expand ctx mode = .ok t') :
    t.input.expand ctx mode = .ok t'.input ∧
      expandRules ctx mode t.expect.extractions = .ok t'.expect.extractions := by
  unfold TestCase.expand at h
  obtain ⟨input, hinput, h⟩ := Except.bind_eq_ok_iff.mp h
  obtain ⟨own, -, h⟩ := Except.bind_eq_ok_iff.mp h
  obtain ⟨rules, -, h⟩ := Except.bind_eq_ok_iff.mp h
  obtain ⟨extractions, hextractions, h⟩ := Except.bind_eq_ok_iff.mp h
  cases h
  exact ⟨hinput, hextractions⟩

/-- A rule that expects no value of its own is expanded in its name. -/
theorem expandRule_name {ctx : Context} {mode : Expansion} {r : MatchRule} {name : String}
    (hvalue : '$' ∉ r.value.toList) (hname : Template.expand ctx mode r.contextName = .ok name) :
    expandRule ctx mode r = .ok { r with contextName := name } := by
  unfold expandRule
  rw [Template.expand_of_no_dollar ctx mode hvalue, hname]
  rfl

/-- Rules without variables stay as they are. -/
theorem expandRules_of_no_dollar (ctx : Context) (mode : Expansion) {rules : List MatchRule}
    (h : ∀ r ∈ rules, '$' ∉ r.value.toList ∧ '$' ∉ r.contextName.toList) :
    expandRules ctx mode rules = .ok rules := by
  induction rules with
  | nil => rfl
  | cons r rest ih =>
      obtain ⟨⟨hvalue, hname⟩, hrest⟩ := List.forall_mem_cons.mp h
      have hr : expandRule ctx mode r = .ok r :=
        expandRule_name hvalue (Template.expand_of_no_dollar ctx mode hname)
      unfold expandRules
      rw [hr, ih hrest]
      rfl

end TestCase

/-- The test cases of an expanded component are expanded one by one. -/
theorem Component.expandTests_eq_ok {ctx : Context} {tests tests' : List TestCase}
    (h : expandTests ctx tests = .ok tests') :
    List.Forall₂ (fun t t' => t.expand ctx .lenient = .ok t') tests tests' := by
  induction tests generalizing tests' with
  | nil =>
      cases h
      exact .nil
  | cons t rest ih =>
      unfold expandTests at h
      obtain ⟨t', ht, h⟩ := Except.bind_eq_ok_iff.mp h
      obtain ⟨rest', hrest, h⟩ := Except.bind_eq_ok_iff.mp h
      cases h
      exact .cons ht (ih hrest)

/-! ## Expanding as far as possible -/

theorem TestCase.expand_lenient (ctx : Context) (t : TestCase) :
    ∃ t', t.expand ctx .lenient = .ok t' :=
  ⟨_, t.yields_expand.lenient⟩

namespace Component

theorem expandTests_succeeds (ctx : Context) (tests : List TestCase) :
    ∃ tests', expandTests ctx tests = .ok tests' := by
  induction tests with
  | nil => exact ⟨[], rfl⟩
  | cons t rest ih =>
      unfold expandTests
      refine Except.bind_succeeds (t.expand_lenient ctx) fun t' => ?_
      exact Except.bind_succeeds ih fun rest' => ⟨_, rfl⟩

/-- A component can be expanded with any context. -/
theorem expand_succeeds (c : Component) (ctx : Context) : ∃ c', c.expand ctx = .ok c' := by
  obtain ⟨tests, htests⟩ := expandTests_succeeds ctx c.tests
  exact ⟨{ c with tests := tests }, by rw [expand, htests]⟩

/-! ### Inputs -/

theorem mem_missingInputs {c : Component} {ctx : Context} {key : String} :
    key ∈ c.missingInputs ctx ↔ c.inputs.contains key = true ∧ ctx.contains key = false := by
  rw [missingInputs, List.mem_filter, KeyMap.mem_keys_iff, Bool.not_eq_true']

theorem missingInputs_pairwise (c : Component) (ctx : Context) :
    (c.missingInputs ctx).Pairwise (· < ·) :=
  c.inputs.keys_pairwise.filter _

theorem checkInputs_of_missing {c : Component} {ctx : Context} (h : c.missingInputs ctx ≠ []) :
    c.checkInputs ctx = .error (.missingInputs c.name (c.missingInputs ctx)) := by
  unfold checkInputs
  dsimp only
  rw [if_neg (by rwa [List.isEmpty_iff])]

theorem checkInputs_eq_ok_iff {c : Component} {ctx : Context} :
    c.checkInputs ctx = .ok () ↔ c.missingInputs ctx = [] := by
  constructor
  · intro hok
    by_contra hmissing
    rw [checkInputs_of_missing hmissing] at hok
    cases hok
  · intro hnone
    rw [checkInputs, hnone]
    rfl

end Component

end Conformance
