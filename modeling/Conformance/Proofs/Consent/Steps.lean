import Conformance.Consent.Flow
import Conformance.Proofs.Expansion
import Conformance.Proofs.Extraction
import Conformance.Proofs.Request.Prepare
import Conformance.Proofs.Walk.Executes

/-!
# The steps of the consent providers

What each step of the components that obtain consents leaves in the context of a flow when it passes.
The steps have been expanded with the context that the flow began with; the context in which one of
them is executed is any.
-/

namespace Conformance.Component.Providers

variable {early ctx next : Context} {t : TestCase} {trial : Trial} {x : Exchange} {id : String}

/-! ## Names of extracted values -/

/-- Rules that keep the text at one path are expanded in their names. -/
theorem expandRules_keepPath {names expanded : List String} (path : String)
    (h : List.Forall₂ (fun name name' => Template.expand early .lenient name = .ok name') names
      expanded) :
    TestCase.expandRules early .lenient (names.map fun name => keepPath name path) =
      .ok (expanded.map fun name => keepPath name path) := by
  induction h with
  | nil => rfl
  | @cons name name' rest rest' hname _ ih =>
      have hrule : TestCase.expandRule early .lenient (keepPath name path) =
          .ok (keepPath name' path) :=
        TestCase.expandRule_name (r := keepPath name path) (by simp [keepPath]) hname
      rw [List.map_cons, TestCase.expandRules, hrule, ih]
      rfl

/-- The variable under whose name the consent is kept expands to the name of the token. -/
theorem expand_consentId {name : String} (h : early.getText Context.consentIdName = .ok name) :
    Template.expand early .lenient "$consent_id" = .ok name := by
  have hexpand := @Template.expand_variable early "" Context.consentIdName name .lenient (by decide)
    (by decide) (List.all_eq_true.mp rfl) h
  rwa [String.empty_append] at hexpand

/-! ## Steps -/

/-- Asking for a client token keeps the assertion, and then the token of the answer. -/
theorem clientGrant_passes [Idna] (hexpand : (clientGrant id).expand early .lenient = .ok t)
    (h : t.Passes ctx trial x next) :
    ∃ assertion token, x.response.textAt? "access_token" = some token ∧
      next = (ctx.putText Context.assertionName assertion).putText Context.clientTokenName token := by
  obtain ⟨hinput, hrules⟩ := TestCase.expand_eq_ok hexpand
  have hgeneration := (RequestTemplate.expand_eq_ok hinput).generation
  obtain ⟨assertion, hctx⟩ := TestCase.prepare_assertion (by rw [hgeneration]; rfl)
    (TestCase.begin_ok h.begun).2
  have hname : Template.expand early .lenient "client_access_token" = .ok "client_access_token" :=
    Template.expand_of_no_dollar early .lenient (by decide)
  have hkept := expandRules_keepPath "access_token" (.cons hname .nil)
  have hextract := h.extracted
  rw [← Except.ok.inj (hkept.symm.trans hrules), hctx] at hextract
  obtain ⟨token, htoken, hnext⟩ := kept_of_extract (by decide) (by decide) hextract
  exact ⟨assertion, token, htoken, hnext⟩

/-- Creating a consent keeps its identifier under the expanded names. -/
theorem consentCreation_passes [Idna] {names expanded : List String}
    (hexpand : (consentCreation id names).expand early .lenient = .ok t)
    (hnames : List.Forall₂ (fun name name' => Template.expand early .lenient name = .ok name') names
      expanded)
    (hset : ∃ name ∈ expanded, name ≠ "") (h : t.Passes ctx trial x next) :
    ∃ consent, x.response.textAt? "Data.ConsentId" = some consent ∧
      next = expanded.foldl (keepUnder consent) ctx := by
  obtain ⟨hinput, hrules⟩ := TestCase.expand_eq_ok hexpand
  have hgeneration := (RequestTemplate.expand_eq_ok hinput).generation
  obtain ⟨-, hctx⟩ := TestCase.prepare_plain (by rw [hgeneration]; rfl)
    (TestCase.begin_ok h.begun).2
  have hextract := h.extracted
  rw [← Except.ok.inj ((expandRules_keepPath _ hnames).symm.trans hrules), hctx] at hextract
  exact kept_of_extract (by decide) hset hextract

/-- The URL at which a consent is authorised is the one that is requested, and it is kept. -/
theorem authorisation_begun [Idna] {name purpose : String} {expect : Expect}
    (hexpand : (authorisation id name purpose expect).expand early .lenient = .ok t)
    (h : t.begin ctx = .ok trial) :
    trial.ctx = ctx.putText Context.consentUrlName trial.request.url ∧
      ∃ endpoint claims url,
        Template.expandMap (t.workingContext ctx) .strict t.input.claims = .ok claims ∧
        Claims.consentUrl endpoint claims = .ok url ∧ trial.request.url = url.render := by
  obtain ⟨hinput, -⟩ := TestCase.expand_eq_ok hexpand
  have hgeneration := (RequestTemplate.expand_eq_ok hinput).generation
  exact TestCase.prepare_consentUrl (by rw [hgeneration]; rfl) (TestCase.begin_ok h).2

/-- Extractions without variables look at the answer to the authorisation as they are. -/
theorem authorisation_passes [Idna] {name purpose : String} {expect : Expect}
    (hexpand : (authorisation id name purpose expect).expand early .lenient = .ok t)
    (hrules : ∀ r ∈ expect.extractions, '$' ∉ r.value.toList ∧ '$' ∉ r.contextName.toList)
    (h : t.Passes ctx trial x next) :
    Expect.extract x.response x.response.json? expect.extractions
      (ctx.putText Context.consentUrlName trial.request.url) = ([], next) := by
  obtain ⟨-, hexpanded⟩ := TestCase.expand_eq_ok hexpand
  have hkept := TestCase.expandRules_of_no_dollar early .lenient hrules
  have hextract := h.extracted
  rw [← Except.ok.inj (hkept.symm.trans hexpanded), (authorisation_begun hexpand h.begun).1]
    at hextract
  exact hextract

/-- Exchanging the code of a redirect keeps the token of the answer under the name of the token. -/
theorem codeExchange_passes [Idna] {name : String}
    (hname : early.getText Context.consentIdName = .ok name)
    (hne : name ≠ "") (hexpand : (codeExchange id).expand early .lenient = .ok t)
    (h : t.Passes ctx trial x next) :
    ∃ token, x.response.textAt? "access_token" = some token ∧ next = ctx.putText name token := by
  obtain ⟨hinput, hrules⟩ := TestCase.expand_eq_ok hexpand
  have hgeneration := (RequestTemplate.expand_eq_ok hinput).generation
  obtain ⟨-, hctx⟩ := TestCase.prepare_plain (by rw [hgeneration]; rfl)
    (TestCase.begin_ok h.begun).2
  have hkept := expandRules_keepPath "access_token" (.cons (expand_consentId hname) .nil)
  have hextract := h.extracted
  rw [← Except.ok.inj (hkept.symm.trans hrules), hctx] at hextract
  obtain ⟨token, htoken, hnext⟩ := kept_of_extract (by decide) (by simpa using hne) hextract
  exact ⟨token, htoken, hnext.trans (keepUnder_eq hne token ctx)⟩

end Conformance.Component.Providers
