import Conformance.Expect.Validate
import Conformance.Proofs.Context

/-!
# What validation leaves in a context

A response that violates an expectation leaves the context as it was. Otherwise the named
extractions run one after the other: `outcomes` says what each has come to, and `extract_eq` that
every one that has found a value writes it, also when another one fails. So a response can fail and
still leave values behind. `validate_atomic_iff` says when it does, and that it leaves nothing but
what was found; of `splitExtractions` one finds its value and the other one does not.
-/

namespace Conformance.Expect

variable {response : Response} {body : Option Json}

/-! ## Outcomes of extractions -/

/-- What the named rules come to, each in the context that the earlier ones have left. -/
def outcomes (response : Response) (body : Option Json) :
    List MatchRule → Context → List (String × Except Violation String)
  | [], _ => []
  | r :: rest, ctx =>
      if r.contextName = "" then outcomes response body rest ctx
      else
        match r.check response body ctx with
        | .ok value =>
            (r.contextName, .ok value) ::
              outcomes response body rest (ctx.putText r.contextName value)
        | .error v => (r.contextName, .error v) :: outcomes response body rest ctx

/-- The values that were found, by the names of their rules. -/
def found (tried : List (String × Except Violation String)) : List (String × String) :=
  tried.filterMap fun p => p.2.toOption.map fun value => (p.1, value)

/-- The failures of the other rules. -/
def missed (tried : List (String × Except Violation String)) : List Violation :=
  tried.filterMap fun p =>
    match p.2 with
    | .ok _ => none
    | .error v => some (.extraction p.1 v.message)

/-- Write values under their names, one after the other. -/
def keepAll (ctx : Context) (values : List (String × String)) : Context :=
  values.foldl (fun ctx p => ctx.putText p.1 p.2) ctx

/-- Extractions report those that fail and write what the others find. -/
theorem extract_eq (rules : List MatchRule) (ctx : Context) :
    extract response body rules ctx =
      (missed (outcomes response body rules ctx),
        keepAll ctx (found (outcomes response body rules ctx))) := by
  induction rules generalizing ctx with
  | nil => rfl
  | cons r rest ih =>
      unfold extract outcomes
      by_cases hname : r.contextName = ""
      · rw [if_pos hname, if_pos hname]
        exact ih ctx
      · rw [if_neg hname, if_neg hname]
        cases r.check response body ctx with
        | ok value =>
            dsimp only
            rw [ih]
            rfl
        | error v =>
            dsimp only
            rw [ih]
            rfl

theorem length_outcomes (rules : List MatchRule) (ctx : Context) :
    (outcomes response body rules ctx).length =
      (rules.filter fun r => r.contextName ≠ "").length := by
  induction rules generalizing ctx with
  | nil => rfl
  | cons r rest ih =>
      unfold outcomes
      by_cases hname : r.contextName = ""
      · rw [if_pos hname, ih, List.filter_cons_of_neg (by simpa using hname)]
      · rw [if_neg hname, List.filter_cons_of_pos (by simpa using hname), List.length_cons]
        cases r.check response body ctx with
        | ok value => simp only [List.length_cons, ih]
        | error v => simp only [List.length_cons, ih]

/-- A single rule finds its value or fails. -/
theorem found_or_missed {tried : List (String × Except Violation String)}
    (h : tried.length ≤ 1) : found tried = [] ∨ missed tried = [] := by
  match tried, h with
  | [], _ => exact .inl rfl
  | [(name, .ok value)], _ => exact .inr rfl
  | [(name, .error v)], _ => exact .inl rfl

/-- A name that has another binding was written, and holds a value that was written there. -/
theorem getText_keepAll {values : List (String × String)} {ctx : Context} {k : String}
    (h : (keepAll ctx values).values.get? k ≠ ctx.values.get? k) :
    ∃ value, (k, value) ∈ values ∧ (keepAll ctx values).getText k = .ok value := by
  induction values generalizing ctx with
  | nil => exact absurd rfl h
  | cons p rest ih =>
      obtain ⟨name, value⟩ := p
      have hcons : keepAll ctx ((name, value) :: rest) = keepAll (ctx.putText name value) rest :=
        rfl
      rw [hcons] at h ⊢
      by_cases hlater :
          (keepAll (ctx.putText name value) rest).values.get? k =
            (ctx.putText name value).values.get? k
      · have hput : (ctx.putText name value).values.get? k =
            if name = k then some (.text value) else ctx.values.get? k := KeyMap.get?_put ..
        rw [hlater, hput] at h
        by_cases hname : name = k
        · subst hname
          refine ⟨value, List.mem_cons_self, Context.getText_eq_ok_iff.mpr ?_⟩
          rw [hlater, hput, if_pos rfl]
        · rw [if_neg hname] at h
          exact absurd rfl h
      · obtain ⟨last, hmem, hlast⟩ := ih hlater
        exact ⟨last, List.mem_cons_of_mem _ hmem, hlast⟩

/-! ## Validation -/

theorem validate_of_violations {e : Expect} {ctx : Context} {schemas : Option SchemaCheck}
    (h : e.violations response ctx schemas ≠ []) :
    e.validate response ctx schemas = (e.violations response ctx schemas, ctx) := by
  unfold validate
  rw [if_neg (by simpa using h)]

theorem validate_of_met {e : Expect} {ctx : Context} {schemas : Option SchemaCheck}
    (h : e.violations response ctx schemas = []) :
    e.validate response ctx schemas =
      (missed (outcomes response response.json? e.extractions ctx),
        keepAll ctx (found (outcomes response response.json? e.extractions ctx))) := by
  unfold validate
  rw [h, ← extract_eq]
  rfl

/-- **When a failed validation leaves values.** A violated expectation leaves the context as it was.
Validation reports nothing or leaves the context as it was exactly if an expectation is violated, no
extraction fails, or what the extractions have found was there already; so it always does with at
most one named extraction. A name that has another binding than before holds a value that was
found. -/
theorem validate_atomic_iff (e : Expect) (response : Response) (ctx : Context)
    (schemas : Option SchemaCheck) :
    let tried := outcomes response response.json? e.extractions ctx
    let after := e.validate response ctx schemas
    (e.violations response ctx schemas ≠ [] →
        after = (e.violations response ctx schemas, ctx)) ∧
      (after.1 = [] ∨ after.2 = ctx ↔
        e.violations response ctx schemas ≠ [] ∨ missed tried = [] ∨
          keepAll ctx (found tried) = ctx) ∧
      ((e.extractions.filter fun r => r.contextName ≠ "").length ≤ 1 →
        after.1 = [] ∨ after.2 = ctx) ∧
      ∀ k, after.2.values.get? k ≠ ctx.values.get? k →
        ∃ value, (k, value) ∈ found tried ∧ after.2.getText k = .ok value := by
  intro tried after
  by_cases hmet : e.violations response ctx schemas = []
  · have hafter : after = (missed tried, keepAll ctx (found tried)) := validate_of_met hmet
    rw [hafter]
    refine ⟨fun h => absurd hmet h, ?_, ?_, fun k hk => getText_keepAll hk⟩
    · constructor
      · intro h
        exact .inr h
      · rintro (h | h)
        · exact absurd hmet h
        · exact h
    · intro hone
      have hlength : tried.length ≤ 1 := by rwa [length_outcomes]
      rcases found_or_missed hlength with hnone | hnone
      · right
        rw [hnone]
        rfl
      · exact .inl hnone
  · have hafter : after = (e.violations response ctx schemas, ctx) := validate_of_violations hmet
    rw [hafter]
    exact ⟨fun _ => rfl, ⟨fun _ => .inl hmet, fun _ => .inr rfl⟩, fun _ => .inr rfl,
      fun k hk => absurd rfl hk⟩

/-- A redirect whose identifier and code are both to be kept. -/
def splitExtractions : Expect where
  statusCode := 302
  extractions :=
    [{ contextName := "interaction_id", headerPresent := "x-fapi-interaction-id" },
      { contextName := "authorization_code", headerPresent := "x-code" }]

/-- A redirect with the identifier alone fails, and yet the identifier is kept. -/
theorem splitExtractions_kept :
    let after := splitExtractions.validate
      ((Response.ofBody 302 "").withHeader "x-fapi-interaction-id" "b4405450") .empty none
    after =
        ([.extraction "authorization_code" "(Match:HeaderPresent) header x-code not present"],
          Context.empty.putText "interaction_id" "b4405450") ∧
      ¬ (after.1 = [] ∨ after.2 = .empty) := by
  decide

end Conformance.Expect
