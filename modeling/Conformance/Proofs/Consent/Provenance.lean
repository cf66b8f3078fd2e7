import Conformance.Proofs.Consent.Acquisition
import Conformance.Proofs.Consent.Course
import Conformance.Proofs.Consent.Steps
import Conformance.Proofs.Token.Naming

/-!
# Where the values of an item come from

An item without an error tells what the answers in its own flow have told, whatever the starting
context held before. `offered_tells` says so for every token of a store: all steps were requested, each
once and in order, and the values of the item are found in the answers to certain steps.

What all steps together leave in the context of a flow is worked out for each component
(`interactive_leaves`, `headless_leaves`). The name of the token is among the names that are written, so
it counts that it is none of the others (`TokenStore.tokenName_ne`).
-/

namespace Conformance

namespace Walk.Course

/-- The answer to the request with a number, counted from zero. -/
def answer? (c : Walk.Course) (k : Nat) : Option Exchange := c.answers[k]?.bind Except.toOption

/-- The text at a path of that answer. -/
def textAt? (c : Walk.Course) (k : Nat) (path : String) : Option String :=
  (c.answer? k).bind (·.response.textAt? path)

/-- What is found in one of the first answers is found in the course. -/
theorem answer?_bind_of_prefix {α : Type} {c : Walk.Course} {xs : List Exchange}
    (h : xs.map Except.ok <+: c.answers) {k : Nat} {find : Exchange → Option α} {a : α}
    (ha : xs[k]?.bind find = some a) : (c.answer? k).bind find = some a := by
  obtain ⟨rest, hrest⟩ := h
  obtain ⟨x, hx, hfind⟩ := Option.bind_eq_some_iff.mp ha
  obtain ⟨hk, -⟩ := List.getElem?_eq_some_iff.mp hx
  rw [answer?, ← hrest, List.getElem?_append_left (by rwa [List.length_map]), List.getElem?_map, hx]
  exact hfind

end Walk.Course

/-- The step whose answer tells the consent, counted from zero. -/
def Acquisition.consentStep : Acquisition → Nat
  | .psu => 1
  | .headless => 3

/-- Where that answer tells the consent. -/
def Acquisition.consentPath : Acquisition → String
  | .psu => "Data.ConsentId"
  | .headless => "access_token"

/-! ## All steps together -/

namespace Component.Providers

/-- A name that the steps do not give to a value of their own which is read later. -/
structure Free (name : String) : Prop where
  ne_empty : name ≠ ""
  ne_client : name ≠ Context.clientTokenName
  ne_url : name ≠ Context.consentUrlName
  ne_intent : name ≠ "intent_id"

theorem free_tokenName (stem : String) (number : Nat) : Free (TokenStore.tokenName stem number) where
  ne_empty := TokenStore.tokenName_ne_empty stem number
  ne_client := TokenStore.tokenName_ne stem number (by simp [Context.clientTokenName])
  ne_url := TokenStore.tokenName_ne stem number (by simp [Context.consentUrlName])
  ne_intent := TokenStore.tokenName_ne stem number (by simp)

/-- What is read when all steps of a component have passed: the client token of the first answer, the
URL that was requested third, and under the name of the token the consent that a later answer tells. -/
structure Leaves (acquisition : Acquisition) (name : String) (sent : List Trial)
    (xs : List Exchange) (final : Context) (token url consent : String) : Prop where
  token_told : xs[0]?.bind (·.response.textAt? "access_token") = some token
  url_requested : sent[2]?.map (·.request.url) = some url
  consent_told : xs[acquisition.consentStep]?.bind (·.response.textAt? acquisition.consentPath) =
    some consent
  token_kept : final.getText Context.clientTokenName = .ok token
  url_kept : final.getText Context.consentUrlName = .ok url
  consent_kept : final.getText name = .ok consent

variable {early final : Context} {tests : List TestCase} {sent : List Trial} {xs : List Exchange}
  {name : String}

theorem interactive_leaves [Idna] (hname : early.getText Context.consentIdName = .ok name)
    (hfree : Free name) (hexpand : Component.expandTests early interactive.tests = .ok tests)
    (h : Walk.Passes early tests sent xs final) :
    ∃ token url consent, Leaves .psu name sent xs final token url consent := by
  obtain _ | ⟨h₁, _ | ⟨h₂, _ | ⟨h₃, _ | _⟩⟩⟩ := Component.expandTests_eq_ok hexpand
  obtain _ | ⟨p₁, _ | ⟨p₂, _ | ⟨p₃, _ | _⟩⟩⟩ := h
  obtain ⟨assertion, token, htoken, rfl⟩ := clientGrant_passes h₁ p₁
  have hnames : List.Forall₂ (fun n n' => Template.expand early .lenient n = .ok n')
      ["$consent_id", "intent_id"] [name, "intent_id"] :=
    .cons (expand_consentId hname)
      (.cons (Template.expand_of_no_dollar early .lenient (by decide)) .nil)
  obtain ⟨consent, hconsent, rfl⟩ :=
    consentCreation_passes h₂ hnames (by simp) p₂
  have hextract := authorisation_passes h₃ (by simp) p₃
  cases hextract
  refine ⟨token, _, consent, htoken, rfl, hconsent, ?_, ?_, ?_⟩
  · have hlater : Context.consentUrlName ≠ Context.clientTokenName ∧
        "intent_id" ≠ Context.clientTokenName := by decide
    simp [keepUnder, hfree.ne_empty, Context.getText_putText, hlater, hfree.ne_client]
  · exact Context.getText_putText_self ..
  · simp [keepUnder, hfree.ne_empty, Context.getText_putText, hfree.ne_url.symm,
      hfree.ne_intent.symm]

theorem headless_leaves [Idna] (hname : early.getText Context.consentIdName = .ok name)
    (hfree : Free name) (hexpand : Component.expandTests early headless.tests = .ok tests)
    (h : Walk.Passes early tests sent xs final) :
    ∃ token url consent, Leaves .headless name sent xs final token url consent := by
  obtain _ | ⟨h₁, _ | ⟨h₂, _ | ⟨h₃, _ | ⟨h₄, _ | _⟩⟩⟩⟩ := Component.expandTests_eq_ok hexpand
  obtain _ | ⟨p₁, _ | ⟨p₂, _ | ⟨p₃, _ | ⟨p₄, _ | _⟩⟩⟩⟩ := h
  obtain ⟨assertion, token, htoken, rfl⟩ := clientGrant_passes h₁ p₁
  have hnames : List.Forall₂ (fun n n' => Template.expand early .lenient n = .ok n')
      ["intent_id"] ["intent_id"] :=
    .cons (Template.expand_of_no_dollar early .lenient (by decide)) .nil
  obtain ⟨intent, -, rfl⟩ :=
    consentCreation_passes h₂ hnames (by simp) p₂
  obtain ⟨code, -, rfl⟩ := extract_redirect (authorisation_passes h₃ (by decide) p₃)
  obtain ⟨consent, hconsent, rfl⟩ := codeExchange_passes hname hfree.ne_empty h₄ p₄
  have hlater : "authorization_code" ≠ Context.consentUrlName ∧
      "authorization_code" ≠ Context.clientTokenName ∧
      Context.consentUrlName ≠ Context.clientTokenName ∧
      "intent_id" ≠ Context.clientTokenName := by decide
  refine ⟨token, _, consent, htoken, rfl, hconsent, ?_, ?_, ?_⟩
  · simp [keepUnder, Context.getText_putText, hlater, hfree.ne_client]
  · simp [Context.getText_putText, hlater, hfree.ne_url]
  · exact Context.getText_putText_self ..

/-- What all steps of either component leave. -/
theorem steps_leave [Idna] (acquisition : Acquisition)
    (hname : early.getText Context.consentIdName = .ok name) (hfree : Free name)
    (hexpand : Component.expandTests early acquisition.component.tests = .ok tests)
    (h : Walk.Passes early tests sent xs final) :
    ∃ token url consent, Leaves acquisition name sent xs final token url consent := by
  cases acquisition with
  | psu => exact interactive_leaves hname hfree hexpand h
  | headless => exact headless_leaves hname hfree hexpand h

end Component.Providers

/-! ## Items -/

namespace ConsentFlow

/-- The item of a flow whose context holds texts under the names that are read. -/
theorem obtained_eq {f : ConsentFlow} {ctx : Context} {token url consent : String}
    (htoken : ctx.getText Context.clientTokenName = .ok token)
    (hurl : ctx.getText Context.consentUrlName = .ok url)
    (hconsent : ctx.getText f.item.tokenName = .ok consent) :
    f.obtained ctx =
      { f.item with consentUrl := url, consentId := consent, clientAccessToken := token } := by
  rw [obtained, textOr, textOr, textOr, htoken, hurl, hconsent]

/-- The context of a flow holds the name of its token as the name under which the consent is kept. -/
theorem getText_context_consentId (d : RunDefinition) (item : ConsentItem) (ctx : Context) :
    (context d item ctx).getText Context.consentIdName = .ok item.tokenName := by
  rw [context, Context.getText_putText, if_neg (by decide), Context.getText_putText,
    if_neg (by decide), Context.getText_putText_self]

namespace Course

/-- What an item without an error tells of its flow, whose steps were expanded with a context. -/
structure Tells [Idna] (acquisition : Acquisition) (early : Context) (name permissions : String)
    (c : Walk.Course) (i : ConsentItem) : Prop where
  /-- It is for the token of the flow. -/
  tokenName : i.tokenName = name
  permissions : i.permissions = permissions
  /-- All steps of the component were requested, each once and in order. -/
  requested : List.Forall₂ (fun (step : TestCase) (trial : Trial) =>
    step.expand early .lenient = .ok trial.test) acquisition.component.tests c.sent
  prepared : ∀ trial ∈ c.sent,
    ∃ current, trial.test.prepare current = .ok (trial.request, trial.ctx)
  /-- Each request was answered. -/
  answered : ∃ xs : List Exchange, c.answers = xs.map .ok ∧ xs.length = c.sent.length
  /-- The client token is that of the first answer. -/
  clientAccessToken : c.textAt? 0 "access_token" = some i.clientAccessToken
  /-- The URL is the one that was requested in the third step, the authorisation. -/
  consentUrl : c.sent[2]?.map (·.request.url) = some i.consentUrl
  /-- The consent is the one that the component finds in the answer to its step. -/
  consentId : c.textAt? acquisition.consentStep acquisition.consentPath = some i.consentId

/-- **Where the values of an item come from.** Whatever the starting context of a flow for a token of a
store, whatever the answers that it gets and whenever it is asked to stop: if it offers an item without
an error, the item is for its token, all steps have been requested in order, and the values of the item
are those that the answers in this flow have told. -/
theorem offered_tells [Idna] {runner runner' : Runner} {d : RunDefinition} {ctx : Context}
    {acquisition : Acquisition} {f : ConsentFlow} {stem permissions : String} {number : Nat}
    (hbegin : ConsentFlow.begin runner d (.new (TokenStore.tokenName stem number) permissions) ctx
      acquisition = .ok (f, runner'))
    (moves : List Walk.Move) {i : ConsentItem} (hi : i ∈ ((start f).play moves).offered)
    (herror : i.error = "") :
    Tells acquisition
      (context d (.new (TokenStore.tokenName stem number) permissions) ctx)
      (TokenStore.tokenName stem number) permissions ((start f).play moves).course i := by
  obtain ⟨hitem, hctx, htests⟩ := Acquisition.begin_eq_ok hbegin
  have hstands := (start_stands f).play moves
  generalize (start f).play moves = c at hi hstands ⊢
  obtain ⟨ending, hended, rfl⟩ := hstands.mem_offered hi
  have hcompleted : ending = .completed := by
    by_contra hne
    exact (report_error_iff (by rw [hitem]; rfl) _ ending).mpr hne herror
  subst hcompleted
  obtain ⟨-, xs, hanswers, hpasses⟩ := hstands.walk.passed_all hstands.halts hended
  rw [hctx] at hpasses
  obtain ⟨token, url, consent, hleaves⟩ := Component.Providers.steps_leave acquisition
    (getText_context_consentId d _ ctx) (Component.Providers.free_tokenName stem number) htests
    hpasses
  have hobtained : f.report c.course.walk.ctx .completed = { f.item with
      consentUrl := url, consentId := consent, clientAccessToken := token } :=
    obtained_eq hleaves.token_kept hleaves.url_kept (by rw [hitem]; exact hleaves.consent_kept)
  have hprefix : xs.map Except.ok <+: c.course.answers := ⟨[], by rw [List.append_nil, hanswers]⟩
  have hrequested := Component.expandTests_eq_ok htests
  rw [← hpasses.tests_eq, List.forall₂_map_right_iff] at hrequested
  rw [hobtained, hitem]
  exact {
    tokenName := rfl
    permissions := rfl
    requested := hrequested
    prepared := hpasses.prepared
    answered := ⟨xs, hanswers, hpasses.length_eq⟩
    clientAccessToken := Walk.Course.answer?_bind_of_prefix hprefix hleaves.token_told
    consentUrl := hleaves.url_requested
    consentId := Walk.Course.answer?_bind_of_prefix hprefix hleaves.consent_told }

/-! ### An example -/

/-- A context in which a consent was acquired before. -/
def usedContext : Context :=
  Acquisition.keep Acquisition.sampleContext
    { tokenName := "accountToken0001", consentId := "c-0", clientAccessToken := "t-0" }

/-- The item of a flow that asks for the balances once more. -/
def sampleNew : ConsentItem := .new (TokenStore.tokenName "account" 1) "\"ReadBalances\""

/-- That flow. -/
def sampleFlow : ConsentFlow :=
  ((ConsentFlow.begin Runner.forConsent {} sampleNew usedContext .psu).toOption.map (·.1)).getD
    ⟨Component.Providers.interactive, sampleNew, usedContext⟩

theorem begin_sampleFlow : ∃ runner,
    ConsentFlow.begin Runner.forConsent {} sampleNew usedContext .psu = .ok (sampleFlow, runner) := by
  obtain ⟨flow, runner, hbegin⟩ := @Acquisition.begin_succeeds {} sampleNew usedContext .psu
    (by decide +kernel)
  have hflow : sampleFlow = flow := by
    rw [sampleFlow, hbegin]
    rfl
  exact ⟨runner, by rw [hflow]; exact hbegin⟩

/-- What comes of it: the items, the header of the second request, and the token of the first
answer. -/
theorem sampleFlow_course :
    (((start sampleFlow).play (sampleMoves granting)).offered.map
        fun i => (i.error, i.consentId, i.clientAccessToken)) = [("", "c-1", "t-1")] ∧
      ((start sampleFlow).play (sampleMoves granting)).course.sent[1]?.bind
        (·.request.headers.get? "Authorization") = some "Bearer t-0" ∧
      ((start sampleFlow).play (sampleMoves granting)).course.textAt? 0 "access_token" =
        some "t-1" := by
  decide +kernel

theorem sampleFlow_tells :
    ∃ i ∈ ((start sampleFlow).play (sampleMoves granting)).offered,
      i.error = "" ∧ i.consentId = "c-1" ∧ i.clientAccessToken = "t-1" ∧
        Tells .psu (context {} sampleNew usedContext) sampleNew.tokenName sampleNew.permissions
          ((start sampleFlow).play (sampleMoves granting)).course i := by
  have hmem : ("", "c-1", "t-1") ∈ ((start sampleFlow).play (sampleMoves granting)).offered.map
      fun i => (i.error, i.consentId, i.clientAccessToken) := by
    rw [sampleFlow_course.1]
    exact List.mem_singleton_self _
  obtain ⟨i, hi, htold⟩ := List.exists_of_mem_map hmem
  obtain ⟨herror, hrest⟩ := Prod.mk.inj htold
  obtain ⟨hconsent, htoken⟩ := Prod.mk.inj hrest
  obtain ⟨runner, hbegin⟩ := begin_sampleFlow
  exact ⟨i, hi, herror, hconsent, htoken, offered_tells hbegin (sampleMoves granting) hi herror⟩

end Course

end ConsentFlow

end Conformance
