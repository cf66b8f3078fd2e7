import Conformance.Proofs.Template.Demands
import Conformance.TestCase

/-!
# Expanded copies

A test case has its templates in many places: `TestCase.texts` lists them in the order in which they
are expanded, and `TestCase.mapTexts` is the test case with all of them changed and nothing else
(`TestCase.sameButTexts_mapTexts`). Expanding a test case demands the texts of the variables in these
places, and yields the copy in which they are put in (`TestCase.yields_expand`). `expand_copies` says
so of both modes: lenient expansion never fails, strict expansion exactly for a variable without a
text, and a copy is the test case again but for its templates.
-/

namespace Conformance

open Template (Yields names filledText)

variable {ctx : Context} {mode : Expansion}

/-! ## Requests -/

namespace RequestTemplate

/-- The templates of a request, in the order in which they are expanded. -/
def texts (r : RequestTemplate) : List String :=
  [r.method, r.endpoint] ++ r.headers.vals ++ r.queryParameters.vals ++ r.formData.vals ++
    r.bodyData.toList ++ r.claims.vals

/-- A request with its templates changed. -/
def mapTexts (f : String → String) (r : RequestTemplate) : RequestTemplate :=
  { r with
    method := f r.method
    endpoint := f r.endpoint
    headers := r.headers.map f
    queryParameters := r.queryParameters.map f
    formData := r.formData.map f
    bodyData := r.bodyData.map f
    claims := r.claims.map f }

/-- Expanding a request demands the texts of the variables in its templates. -/
theorem yields_expand (r : RequestTemplate) :
    Yields ctx mode (r.texts.flatMap names) (r.expand ctx mode) (r.mapTexts (filledText ctx)) := by
  have hsteps : Yields ctx mode
      (names r.method ++ (names r.endpoint ++ (r.headers.vals.flatMap names ++
        (r.queryParameters.vals.flatMap names ++ (r.formData.vals.flatMap names ++
          (r.bodyData.toList.flatMap names ++ (r.claims.vals.flatMap names ++ [])))))))
      (r.expand ctx mode) (r.mapTexts (filledText ctx)) := by
    unfold RequestTemplate.expand
    refine (Template.yields_expand r.method).bind ?_
    refine (Template.yields_expand r.endpoint).bind ?_
    refine (Template.yields_expandMap r.headers).bind ?_
    refine (Template.yields_expandMap r.queryParameters).bind ?_
    refine (Template.yields_expandMap r.formData).bind ?_
    refine (Template.yields_expandOption r.bodyData).bind ?_
    exact (Template.yields_expandMap r.claims).bind (Template.yields_ok ctx mode _)
  simpa [texts] using hsteps

end RequestTemplate

/-! ## Own values and rules -/

namespace TestCase

/-- A value of a context with its text changed, if it is one. -/
def mapValue (f : String → String) : Context.Value → Context.Value
  | .text s => .text (f s)
  | .texts items => .texts items
  | .handle h => .handle h

/-- The text of a value, if it is one. -/
def valueTexts : Context.Value → List String
  | .text s => [s]
  | .texts _ => []
  | .handle _ => []

theorem yields_expandValue (v : Context.Value) :
    Yields ctx mode ((valueTexts v).flatMap names) (expandValue ctx mode v)
      (mapValue (filledText ctx) v) := by
  cases v with
  | text s =>
      rw [valueTexts, List.flatMap_singleton]
      exact (Template.yields_expand s).map Context.Value.text
  | texts items => exact Template.yields_ok ctx mode _
  | handle h => exact Template.yields_ok ctx mode _

/-- The templates of a rule. -/
def ruleTexts (r : MatchRule) : List String := [r.value, r.contextName]

/-- A rule with its templates changed. -/
def mapRule (f : String → String) (r : MatchRule) : MatchRule :=
  { r with value := f r.value, contextName := f r.contextName }

theorem yields_expandRule (r : MatchRule) :
    Yields ctx mode ((ruleTexts r).flatMap names) (expandRule ctx mode r)
      (mapRule (filledText ctx) r) := by
  have hsteps : Yields ctx mode (names r.value ++ (names r.contextName ++ []))
      (expandRule ctx mode r) (mapRule (filledText ctx) r) := by
    unfold expandRule
    refine (Template.yields_expand r.value).bind ?_
    exact (Template.yields_expand r.contextName).bind (Template.yields_ok ctx mode _)
  simpa [ruleTexts] using hsteps

theorem yields_expandRules (rules : List MatchRule) :
    Yields ctx mode ((rules.flatMap ruleTexts).flatMap names) (expandRules ctx mode rules)
      (rules.map (mapRule (filledText ctx))) := by
  induction rules with
  | nil => exact Template.yields_ok ctx mode []
  | cons r rest ih =>
      have hsteps : Yields ctx mode
          ((ruleTexts r).flatMap names ++ ((rest.flatMap ruleTexts).flatMap names ++ []))
          (expandRules ctx mode (r :: rest)) ((r :: rest).map (mapRule (filledText ctx))) := by
        unfold expandRules
        refine (yields_expandRule r).bind ?_
        exact ih.bind (Template.yields_ok ctx mode _)
      rwa [List.append_nil, ← List.flatMap_append, ← List.flatMap_cons] at hsteps

/-! ## Whole test cases -/

/-- The templates of a test case: those of its request, the texts of its own context, and the values
and names of its rules and extractions. -/
def texts (t : TestCase) : List String :=
  t.input.texts ++ t.context.values.vals.flatMap valueTexts ++
    t.expect.rules.flatMap ruleTexts ++ t.expect.extractions.flatMap ruleTexts

/-- A test case with its templates changed. -/
def mapTexts (f : String → String) (t : TestCase) : TestCase :=
  { t with
    input := t.input.mapTexts f
    context := ⟨t.context.values.map (mapValue f)⟩
    expect := { t.expect with
      rules := t.expect.rules.map (mapRule f)
      extractions := t.expect.extractions.map (mapRule f) } }

/-- Expanding a test case demands the texts of the variables in its templates. -/
theorem yields_expand (t : TestCase) :
    Yields ctx mode (t.texts.flatMap names) (t.expand ctx mode) (t.mapTexts (filledText ctx)) := by
  have hsteps : Yields ctx mode
      (t.input.texts.flatMap names ++ ((t.context.values.vals.flatMap fun v =>
          (valueTexts v).flatMap names) ++
        ((t.expect.rules.flatMap ruleTexts).flatMap names ++
          ((t.expect.extractions.flatMap ruleTexts).flatMap names ++ []))))
      (t.expand ctx mode) (t.mapTexts (filledText ctx)) := by
    unfold TestCase.expand
    refine t.input.yields_expand.bind ?_
    refine (Template.yields_mapM yields_expandValue t.context.values).bind ?_
    refine (yields_expandRules t.expect.rules).bind ?_
    exact (yields_expandRules t.expect.extractions).bind (Template.yields_ok ctx mode _)
  simpa only [texts, List.flatMap_append, List.flatMap_assoc, List.append_nil,
    List.append_assoc] using hsteps

/-! ## What a copy keeps -/

/-- One rule is another one but for its value and its name. -/
def SameRule (r r' : MatchRule) : Prop :=
  { r' with value := r.value, contextName := r.contextName } = r

/-- One test case is another one but for its templates. -/
structure SameButTexts (t t' : TestCase) : Prop where
  /-- Identifier, name and all descriptions are the same. -/
  described : { t' with input := t.input, context := t.context, expect := t.expect } = t
  /-- The way in which claims are used is the same. -/
  generation : t'.input.generation = t.input.generation
  headers : t'.input.headers.keys = t.input.headers.keys
  queryParameters : t'.input.queryParameters.keys = t.input.queryParameters.keys
  formData : t'.input.formData.keys = t.input.formData.keys
  /-- There is a body in both or in neither. -/
  bodyData : t'.input.bodyData.isSome = t.input.bodyData.isSome
  claims : t'.input.claims.keys = t.input.claims.keys
  /-- The test's own context sets the same names. -/
  ownNames : t'.context.keys = t.context.keys
  /-- It holds texts under the same names. -/
  ownTexts : ∀ key s, t.context.values.get? key = some (.text s) →
    ∃ s', t'.context.values.get? key = some (.text s')
  /-- Its lists and handles are the same. -/
  ownOthers : ∀ key v, t.context.values.get? key = some v → (∀ s, v ≠ .text s) →
    t'.context.values.get? key = some v
  /-- The expected status and the call for a schema are the same. -/
  expect : { t'.expect with rules := t.expect.rules, extractions := t.expect.extractions } = t.expect
  /-- There are as many rules in the same order, with the same other fields. -/
  rules : List.Forall₂ SameRule t.expect.rules t'.expect.rules
  extractions : List.Forall₂ SameRule t.expect.extractions t'.expect.extractions

theorem forall₂_mapRule (f : String → String) (rules : List MatchRule) :
    List.Forall₂ SameRule rules (rules.map (mapRule f)) := by
  rw [List.forall₂_map_right_iff, List.forall₂_same]
  intro r _
  rfl

/-- Changing the templates of a test case changes nothing else. -/
theorem sameButTexts_mapTexts (f : String → String) (t : TestCase) :
    t.SameButTexts (t.mapTexts f) where
  described := rfl
  generation := rfl
  headers := KeyMap.keys_map f _
  queryParameters := KeyMap.keys_map f _
  formData := KeyMap.keys_map f _
  bodyData := Option.isSome_map
  claims := KeyMap.keys_map f _
  ownNames := KeyMap.keys_map (mapValue f) _
  ownTexts key s hkey := by
    refine ⟨f s, ?_⟩
    have hget := KeyMap.get?_map (mapValue f) t.context.values key
    rw [hkey] at hget
    exact hget
  ownOthers key v hkey hv := by
    have hget := KeyMap.get?_map (mapValue f) t.context.values key
    rw [hkey] at hget
    cases v with
    | text s => exact absurd rfl (hv s)
    | texts items => exact hget
    | handle h => exact hget
  expect := rfl
  rules := forall₂_mapRule f _
  extractions := forall₂_mapRule f _

/-- **Expanded copies.** Expanding a test case as far as possible never fails. Expanding it strictly
fails exactly if a variable in one of its templates does not name a text of the context. A copy has
the texts put into the templates, and is otherwise the test case itself: no other field, key, value or
rule differs. -/
theorem expand_copies (t : TestCase) (ctx : Context) :
    (∃ t', t.expand ctx .lenient = .ok t') ∧
      ((∃ e, t.expand ctx .strict = .error e) ↔
        ∃ s ∈ t.texts, ∃ name ∈ names s, ∀ text, ctx.values.get? name ≠ some (.text text)) ∧
      ∀ mode t', t.expand ctx mode = .ok t' →
        t' = t.mapTexts (filledText ctx) ∧ t.SameButTexts t' := by
  refine ⟨⟨_, t.yields_expand.lenient⟩, ?_, ?_⟩
  · rw [t.yields_expand.strict_fails_iff]
    simp only [List.mem_flatMap, ne_eq, Context.getText_eq_ok_iff]
    constructor
    · rintro ⟨name, ⟨s, hs, hname⟩, hnone⟩
      exact ⟨s, hs, name, hname, hnone⟩
    · rintro ⟨s, hs, name, hname, hnone⟩
      exact ⟨name, ⟨s, hs, hname⟩, hnone⟩
  · intro mode t' h
    obtain rfl := t.yields_expand.eq_of_ok h
    exact ⟨rfl, t.sameButTexts_mapTexts _⟩

/-- A test case with templates in all kinds of places, and a list that looks like one. -/
def accountCase : TestCase where
  id := "account"
  input := { method := "GET", endpoint := "/accounts/$account_id",
             headers := .ofList [("Authorization", "Bearer $token")] }
  context := .ofList [("note", .text "of $account_id"), ("permissions", .texts ["$account_id"])]
  expect := {
    statusCode := 200
    rules := [{ description := "$account_id", json := "Data.AccountId", value := "$account_id" }]
    extractions := [{ contextName := "$account_id", headerPresent := "etag" }] }

/-- The test case for one account; what holds the token is not known yet. -/
def accountCopy : TestCase where
  id := "account"
  input := { method := "GET", endpoint := "/accounts/22",
             headers := .ofList [("Authorization", "Bearer $token")] }
  context := .ofList [("note", .text "of 22"), ("permissions", .texts ["$account_id"])]
  expect := {
    statusCode := 200
    rules := [{ description := "$account_id", json := "Data.AccountId", value := "22" }]
    extractions := [{ contextName := "22", headerPresent := "etag" }] }

theorem accountCase_copied :
    accountCase.expand (.ofList [("account_id", .text "22")]) .lenient = .ok accountCopy ∧
      accountCase.SameButTexts accountCopy ∧
      ∃ e, accountCase.expand (.ofList [("account_id", .text "22")]) .strict = .error e := by
  obtain ⟨-, hstrict, hcopy⟩ := expand_copies accountCase (.ofList [("account_id", .text "22")])
  have hlenient : accountCase.expand (.ofList [("account_id", .text "22")]) .lenient =
      .ok accountCopy := by decide +kernel
  refine ⟨hlenient, (hcopy _ _ hlenient).2, hstrict.mpr ?_⟩
  exact ⟨"Bearer $token", by decide, "token", by decide, nofun⟩

end TestCase

end Conformance
