import Conformance.Proofs.Validation
import Mathlib.Data.List.Forall2

/-!
# What validation reports

A response is met when its status, all rules and the schema are (`Met`), and then each named extraction
has to find its value in the context that the ones before it have left (`AllFound`). Validation reports
nothing exactly if both hold. A response that is not met is reported with everything that it violates,
one entry each: `Reports` says which, and in which order. `validate_reports` says so, and that the order
of the rules has no other effect than to put their entries in the same order.
-/

namespace Conformance.Expect

variable {e : Expect} {response : Response} {body : Option Json} {ctx : Context}
  {schemas : Option SchemaCheck}

/-! ## Rules -/

/-- Whether a response violates a rule. -/
def fails (response : Response) (body : Option Json) (ctx : Context) (r : MatchRule) : Bool :=
  match r.check response body ctx with
  | .ok _ => false
  | .error _ => true

/-- The violations of rules are those of the rules that are violated, one for each, in their order. -/
theorem ruleViolations_forall₂ (rules : List MatchRule) :
    List.Forall₂ (fun r v => r.check response body ctx = .error v)
      (rules.filter (fails response body ctx)) (ruleViolations rules response body ctx) := by
  unfold ruleViolations
  induction rules with
  | nil => exact .nil
  | cons r rest ih =>
      cases hcheck : r.check response body ctx with
      | ok value =>
          rw [List.filter_cons_of_neg (by simp [fails, hcheck]),
            List.filterMap_cons_none (by simp only [hcheck])]
          exact ih
      | error v =>
          rw [List.filter_cons_of_pos (by simp [fails, hcheck]),
            List.filterMap_cons_some (by simp only [hcheck]; rfl)]
          exact .cons hcheck ih

theorem ruleViolations_eq_nil_iff {rules : List MatchRule} :
    ruleViolations rules response body ctx = [] ↔
      ∀ r ∈ rules, ∃ value, r.check response body ctx = .ok value := by
  unfold ruleViolations
  rw [List.filterMap_eq_nil_iff]
  refine forall₂_congr fun r _ => ?_
  cases r.check response body ctx with
  | ok value => simp
  | error v => simp

/-! ## Expectations -/

/-- What must hold of a response before values are extracted from it. -/
structure Met (e : Expect) (response : Response) (ctx : Context) (schemas : Option SchemaCheck) :
    Prop where
  /-- It has the expected status, unless none is expected. -/
  status : e.statusCode = 0 ∨ e.statusCode.toNat = response.status
  /-- Every rule finds what it looks for. -/
  rules : ∀ r ∈ e.rules, ∃ value, r.check response response.json? ctx = .ok value
  /-- The schemas find no fault with it, if they are asked and there are any. -/
  schema : e.schemaValidation = true → ∀ check ∈ schemas, check response = []

/-- The report on a response that is not met: the status if it is another one, each violated rule with
its violation, and each failure that the schemas find. -/
structure Reports (e : Expect) (response : Response) (ctx : Context) (schemas : Option SchemaCheck)
    (failures report : List Violation) : Prop where
  /-- One failure for each violated rule, in the order of the rules. -/
  rules : List.Forall₂ (fun r v => r.check response response.json? ctx = .error v)
    (e.rules.filter (fails response response.json? ctx)) failures
  /-- The failures stand between the status and the schema. -/
  report : report =
    (if e.statusCode = 0 ∨ e.statusCode.toNat = response.status then []
      else [.status e.statusCode.toNat response.status]) ++ failures ++
    if e.schemaValidation then
      schemas.toList.flatMap fun check => (check response).map fun f => .schema f.display
    else []

theorem statusViolations_eq (e : Expect) (response : Response) :
    e.statusViolations response =
      if e.statusCode = 0 ∨ e.statusCode.toNat = response.status then []
      else [.status e.statusCode.toNat response.status] := by
  have hzero : e.statusCode.toNat = 0 ↔ e.statusCode = 0 := by
    rw [← UInt16.toNat_inj]
    rfl
  unfold statusViolations
  by_cases h : e.statusCode = 0 ∨ e.statusCode.toNat = response.status
  · rw [if_pos h, if_neg]
    rintro ⟨hexpected, hother⟩
    rcases h with h | h
    · exact hexpected (hzero.mpr h)
    · exact hother h
  · obtain ⟨hexpected, hother⟩ := not_or.mp h
    rw [if_neg h, if_pos ⟨fun hz => hexpected (hzero.mp hz), hother⟩]

theorem schemaViolations_eq (e : Expect) (response : Response) (schemas : Option SchemaCheck) :
    e.schemaViolations response schemas =
      if e.schemaValidation then
        schemas.toList.flatMap fun check => (check response).map fun f => .schema f.display
      else [] := by
  cases schemas with
  | none => simp [schemaViolations]
  | some check => simp [schemaViolations]

theorem violations_reports (e : Expect) (response : Response) (ctx : Context)
    (schemas : Option SchemaCheck) :
    e.Reports response ctx schemas (ruleViolations e.rules response response.json? ctx)
      (e.violations response ctx schemas) := by
  constructor
  · exact ruleViolations_forall₂ e.rules
  · rw [violations, statusViolations_eq, schemaViolations_eq]

/-- Nothing is violated exactly if the response is met. -/
theorem violations_eq_nil_iff : e.violations response ctx schemas = [] ↔ e.Met response ctx schemas := by
  have hschema : e.schemaViolations response schemas = [] ↔
      (e.schemaValidation = true → ∀ check ∈ schemas, check response = []) := by
    rw [schemaViolations_eq]
    cases schemas with
    | none => simp
    | some check => simp
  have hstatus : e.statusViolations response = [] ↔
      e.statusCode = 0 ∨ e.statusCode.toNat = response.status := by
    rw [statusViolations_eq, ite_eq_left_iff]
    simp only [List.cons_ne_nil, imp_false, not_not]
  rw [violations, List.append_eq_nil_iff, List.append_eq_nil_iff, hstatus,
    ruleViolations_eq_nil_iff, hschema]
  constructor
  · rintro ⟨⟨hs, hr⟩, hc⟩
    exact ⟨hs, hr, hc⟩
  · rintro ⟨hs, hr, hc⟩
    exact ⟨⟨hs, hr⟩, hc⟩

/-! ## Extractions -/

/-- Whether each named rule finds its value in the context that the rules before it have left. -/
def AllFound (response : Response) (body : Option Json) (rules : List MatchRule) (ctx : Context) :
    Prop :=
  ∀ front r back, rules = front ++ r :: back → r.contextName ≠ "" →
    ∃ value, r.check response body (extract response body front ctx).2 = .ok value

/-- Extractions go on where the ones before them have left off. -/
theorem extract_append (front back : List MatchRule) (ctx : Context) :
    extract response body (front ++ back) ctx =
      ((extract response body front ctx).1 ++
          (extract response body back (extract response body front ctx).2).1,
        (extract response body back (extract response body front ctx).2).2) := by
  induction front generalizing ctx with
  | nil => rfl
  | cons r rest ih =>
      rw [List.cons_append]
      by_cases hname : r.contextName = ""
      · simp only [extract, if_pos hname, ih]
      · simp only [extract, if_neg hname]
        cases r.check response body ctx with
        | ok value => exact ih _
        | error v => simp only [ih, List.cons_append]

theorem extract_singleton_iff {r : MatchRule} :
    (extract response body [r] ctx).1 = [] ↔
      (r.contextName ≠ "" → ∃ value, r.check response body ctx = .ok value) := by
  unfold extract
  by_cases hname : r.contextName = ""
  · rw [if_pos hname]
    simp [extract, hname]
  · rw [if_neg hname]
    cases r.check response body ctx with
    | ok value => simp [extract]
    | error v => simp [extract, hname]

theorem allFound_cons {r : MatchRule} {rest : List MatchRule} :
    AllFound response body (r :: rest) ctx ↔
      (r.contextName ≠ "" → ∃ value, r.check response body ctx = .ok value) ∧
        AllFound response body rest (extract response body [r] ctx).2 := by
  constructor
  · intro h
    refine ⟨h [] r rest rfl, ?_⟩
    intro front q back hrest hname
    have hq := h (r :: front) q back (by rw [hrest, List.cons_append]) hname
    rwa [← List.singleton_append, extract_append] at hq
  · rintro ⟨hr, hrest⟩ front q back hsplit hname
    cases front with
    | nil =>
        obtain ⟨rfl, -⟩ := List.cons.inj hsplit
        exact hr hname
    | cons p more =>
        obtain ⟨rfl, hmore⟩ := List.cons.inj hsplit
        rw [← List.singleton_append, extract_append]
        exact hrest more q back hmore hname

/-- Extracting reports nothing exactly if everything is found. -/
theorem extract_eq_nil_iff {rules : List MatchRule} :
    (extract response body rules ctx).1 = [] ↔ AllFound response body rules ctx := by
  induction rules generalizing ctx with
  | nil =>
      constructor
      · intro _ front r back hsplit
        exact absurd hsplit.symm (by simp)
      · intro _
        rfl
  | cons r rest ih =>
      rw [← List.singleton_append, extract_append, List.append_eq_nil_iff, extract_singleton_iff, ih,
        List.singleton_append, allFound_cons]

/-! ## Validation -/

theorem Met.validate_eq (h : e.Met response ctx schemas) :
    e.validate response ctx schemas = extract response response.json? e.extractions ctx := by
  rw [validate_of_met (violations_eq_nil_iff.mpr h), ← extract_eq]

theorem validate_of_not_met (h : ¬ e.Met response ctx schemas) :
    e.validate response ctx schemas = (e.violations response ctx schemas, ctx) :=
  validate_of_violations (mt violations_eq_nil_iff.mp h)

theorem validate_eq_nil_iff :
    (e.validate response ctx schemas).1 = [] ↔
      e.Met response ctx schemas ∧ AllFound response response.json? e.extractions ctx := by
  by_cases hmet : e.Met response ctx schemas
  · rw [hmet.validate_eq, extract_eq_nil_iff]
    exact (and_iff_right hmet).symm
  · rw [validate_of_not_met hmet]
    constructor
    · intro hnone
      exact absurd (violations_eq_nil_iff.mp hnone) hmet
    · rintro ⟨h, -⟩
      exact absurd h hmet

theorem Met.of_perm {rules : List MatchRule} (h : e.Met response ctx schemas)
    (hperm : rules.Perm e.rules) : ({ e with rules := rules } : Expect).Met response ctx schemas :=
  ⟨h.status, fun r hr => h.rules r (hperm.subset hr), h.schema⟩

theorem met_perm_iff {rules : List MatchRule} (hperm : rules.Perm e.rules) :
    ({ e with rules := rules } : Expect).Met response ctx schemas ↔ e.Met response ctx schemas :=
  ⟨fun h => h.of_perm hperm.symm, fun h => h.of_perm hperm⟩

/-- **Complete reports.** Validation reports nothing exactly if the response is met and every named
extraction finds its value in the context that the extractions before it have left. A response that is
not met leaves the context as it was, and the report has one entry for each violation: first of the
status, then of the rules in their order, then those that the schemas find. With the same rules in
another order, the report has the same entries for rules in that other order; whether there is a
report, what else is in it, and the context that is left are the same. -/
theorem validate_reports (e : Expect) (response : Response) (ctx : Context)
    (schemas : Option SchemaCheck) :
    let after := e.validate response ctx schemas
    (after.1 = [] ↔
        e.Met response ctx schemas ∧ AllFound response response.json? e.extractions ctx) ∧
      (¬ e.Met response ctx schemas →
        after.2 = ctx ∧ ∃ failures, e.Reports response ctx schemas failures after.1) ∧
      ∀ rules : List MatchRule, rules.Perm e.rules →
        let e' : Expect := { e with rules := rules }
        let after' := e'.validate response ctx schemas
        (after'.1 = [] ↔ after.1 = []) ∧ after'.2 = after.2 ∧
          (e.Met response ctx schemas → after' = after) ∧
          (¬ e.Met response ctx schemas → ∃ failures failures', failures'.Perm failures ∧
            e.Reports response ctx schemas failures after.1 ∧
            e'.Reports response ctx schemas failures' after'.1) := by
  intro after
  refine ⟨validate_eq_nil_iff, ?_, ?_⟩
  · intro hnot
    have hafter : after = (e.violations response ctx schemas, ctx) := validate_of_not_met hnot
    rw [hafter]
    exact ⟨rfl, _, violations_reports e response ctx schemas⟩
  · intro rules hperm e' after'
    have hmet_iff : e'.Met response ctx schemas ↔ e.Met response ctx schemas := met_perm_iff hperm
    have hverdict :=
      calc after'.1 = []
        _ ↔ e'.Met response ctx schemas ∧
              AllFound response response.json? e.extractions ctx := validate_eq_nil_iff
        _ ↔ e.Met response ctx schemas ∧
              AllFound response response.json? e.extractions ctx := and_congr_left' hmet_iff
        _ ↔ after.1 = [] := validate_eq_nil_iff.symm
    by_cases hmet : e.Met response ctx schemas
    · have hsame : after' = after := (hmet_iff.mpr hmet).validate_eq.trans hmet.validate_eq.symm
      exact ⟨hverdict, congrArg Prod.snd hsame, fun _ => hsame, fun hnot => absurd hmet hnot⟩
    · have hafter : after = (e.violations response ctx schemas, ctx) := validate_of_not_met hmet
      have hafter' : after' = (e'.violations response ctx schemas, ctx) :=
        validate_of_not_met (mt hmet_iff.mp hmet)
      rw [hafter, hafter'] at hverdict ⊢
      refine ⟨hverdict, rfl, fun h => absurd h hmet, ?_⟩
      intro _
      refine ⟨_, _, ?_, violations_reports e response ctx schemas,
        violations_reports e' response ctx schemas⟩
      -- Both reports run through the same rules with the same check.
      apply hperm.filterMap

end Conformance.Expect
