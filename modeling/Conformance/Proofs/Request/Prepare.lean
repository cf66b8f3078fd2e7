import Conformance.Proofs.Except
import Conformance.TestCase.Prepare

/-!
# What prepared requests are made of

The preparation of a request taken apart: `RequestTemplate.Plain` is what a request is made of before
claims are used, and `prepare_cases` says whether and how they are used. For a test case, what
preparing leaves in the shared context follows: nothing (`TestCase.prepare_plain`), an assertion
(`TestCase.prepare_assertion`), or the URL at which a consent is authorised
(`TestCase.prepare_consentUrl`).
-/

namespace Conformance

namespace RequestTemplate

/-- What a request is made of before claims are used. -/
structure Plain [Idna] (r : RequestTemplate) (ctx : Context) (request : PreparedRequest) :
    Prop where
  method : r.preparedMethod = .ok request.method
  url : ∃ base, r.baseUrl ctx = .ok base ∧
    withParameters ctx base r.queryParameters = .ok request.url
  headers : preparedHeaders ctx r.headers = .ok request.headers
  formData : expanding (Template.expandMap ctx .strict r.formData) = .ok request.formData
  body : expanding (Template.expandOption ctx .strict r.bodyData) = .ok request.body
  generated : request.generated = .empty

variable {r : RequestTemplate} {ctx : Context} {request plain : PreparedRequest}
  {claims : KeyMap String}

theorem plain_of_preparePlain [Idna] (h : r.preparePlain ctx = .ok request) :
    r.Plain ctx request := by
  unfold preparePlain at h
  obtain ⟨method, hmethod, h⟩ := Except.bind_eq_ok_iff.mp h
  obtain ⟨base, hbase, h⟩ := Except.bind_eq_ok_iff.mp h
  obtain ⟨url, hurl, h⟩ := Except.bind_eq_ok_iff.mp h
  obtain ⟨headers, hheaders, h⟩ := Except.bind_eq_ok_iff.mp h
  obtain ⟨form, hform, h⟩ := Except.bind_eq_ok_iff.mp h
  obtain ⟨body, hbody, h⟩ := Except.bind_eq_ok_iff.mp h
  cases h
  exact ⟨hmethod, ⟨base, hbase, hurl⟩, hheaders, hform, hbody, rfl⟩

theorem expanding_eq_ok {α : Type} {x : Except ExpandError α} {a : α} (h : expanding x = .ok a) :
    x = .ok a := by
  cases x with
  | ok b =>
      cases h
      rfl
  | error e => cases h

/-- A request goes out as it is when it names no strategy, and else claims are used for it. -/
theorem prepare_cases [Idna] (h : r.prepare ctx = .ok request) :
    r.generation.get? "strategy" = none ∧ r.Plain ctx request ∨
      ∃ name strategy claims plain, r.generation.get? "strategy" = some name ∧
        ClaimStrategy.ofName? name = some strategy ∧ r.Plain ctx plain ∧
        Template.expandMap ctx .strict r.claims = .ok claims ∧
        applyStrategy strategy claims ctx plain = .ok request := by
  unfold prepare at h
  obtain ⟨plain, hplain, h⟩ := Except.bind_eq_ok_iff.mp h
  split at h
  next hnone =>
    cases h
    exact .inl ⟨hnone, plain_of_preparePlain hplain⟩
  next name hname =>
    split at h
    · cases h
    next strategy hstrategy =>
      obtain ⟨claims, hclaims, h⟩ := Except.bind_eq_ok_iff.mp h
      exact .inr ⟨name, strategy, claims, plain, hname, hstrategy, plain_of_preparePlain hplain,
        expanding_eq_ok hclaims, h⟩

/-- The names of the two strategies. -/
theorem ofName?_eq_some {name : String} {strategy : ClaimStrategy}
    (h : ClaimStrategy.ofName? name = some strategy) :
    name = "consenturl" ∨ name = "jwt-bearer" := by
  unfold ClaimStrategy.ofName? at h
  split at h
  · exact .inl rfl
  · exact .inr rfl
  · cases h

theorem applyStrategy_consentUrl [Idna]
    (h : applyStrategy .consentUrl claims ctx plain = .ok request) :
    ∃ url, Claims.consentUrl plain.url claims = .ok url ∧ request = { plain with
      url := url.render, generated := plain.generated.put Context.consentUrlName url.render } := by
  simp only [applyStrategy] at h
  split at h <;> cases h
  next url hurl => exact ⟨url, hurl, rfl⟩

theorem applyStrategy_jwtBearer [Idna]
    (h : applyStrategy .jwtBearer claims ctx plain = .ok request) :
    ∃ assertion, request = { plain with
      formData := plain.formData.put "client_assertion" assertion
      generated := plain.generated.put Context.assertionName assertion } := by
  simp only [applyStrategy] at h
  split at h
  · cases h
  · split at h <;> cases h
    exact ⟨_, rfl⟩

end RequestTemplate

namespace TestCase

variable [Idna] {t : TestCase} {ctx ctx' : Context} {request : PreparedRequest}

theorem prepare_eq_ok (h : t.prepare ctx = .ok (request, ctx')) :
    t.input.prepare (t.workingContext ctx) = .ok request ∧
      ctx' = ctx.putTexts request.generated.entries := by
  unfold prepare at h
  split at h <;> cases h
  next hprepare => exact ⟨hprepare, rfl⟩

/-- A request without claims leaves the shared context as it was. -/
theorem prepare_plain (hnone : t.input.generation.get? "strategy" = none)
    (h : t.prepare ctx = .ok (request, ctx')) :
    t.input.Plain (t.workingContext ctx) request ∧ ctx' = ctx := by
  obtain ⟨hprepare, rfl⟩ := prepare_eq_ok h
  rcases RequestTemplate.prepare_cases hprepare with ⟨-, hplain⟩ | ⟨_, _, _, _, hsome, -⟩
  · rw [hplain.generated]
    exact ⟨hplain, rfl⟩
  · rw [hnone] at hsome
    cases hsome

/-- Where claims make an assertion, that is kept in the shared context, and nothing else. -/
theorem prepare_assertion (hstrategy : t.input.generation.get? "strategy" = some "jwt-bearer")
    (h : t.prepare ctx = .ok (request, ctx')) :
    ∃ assertion, ctx' = ctx.putText Context.assertionName assertion := by
  obtain ⟨hprepare, rfl⟩ := prepare_eq_ok h
  rcases RequestTemplate.prepare_cases hprepare with
    ⟨hnone, -⟩ | ⟨name, strategy, claims, plain, hname, hof, hplain, -, happly⟩
  · rw [hstrategy] at hnone
    cases hnone
  · rw [hstrategy] at hname
    cases hname
    cases hof
    obtain ⟨assertion, rfl⟩ := RequestTemplate.applyStrategy_jwtBearer happly
    dsimp only
    rw [hplain.generated]
    exact ⟨assertion, rfl⟩

/-- Where claims make the URL at which a consent is authorised, that is the URL of the request, and it
is kept in the shared context. -/
theorem prepare_consentUrl (hstrategy : t.input.generation.get? "strategy" = some "consenturl")
    (h : t.prepare ctx = .ok (request, ctx')) :
    ctx' = ctx.putText Context.consentUrlName request.url ∧
      ∃ endpoint claims url,
        Template.expandMap (t.workingContext ctx) .strict t.input.claims = .ok claims ∧
        Claims.consentUrl endpoint claims = .ok url ∧ request.url = url.render := by
  obtain ⟨hprepare, rfl⟩ := prepare_eq_ok h
  rcases RequestTemplate.prepare_cases hprepare with
    ⟨hnone, -⟩ | ⟨name, strategy, claims, plain, hname, hof, hplain, hclaims, happly⟩
  · rw [hstrategy] at hnone
    cases hnone
  · rw [hstrategy] at hname
    cases hname
    cases hof
    obtain ⟨url, hurl, rfl⟩ := RequestTemplate.applyStrategy_consentUrl happly
    dsimp only
    rw [hplain.generated]
    exact ⟨rfl, plain.url, claims, url, hclaims, hurl, rfl⟩

/-- So what preparing leaves in the shared context is one of three things. -/
theorem prepare_ctx_cases (h : t.prepare ctx = .ok (request, ctx')) :
    ctx' = ctx ∨
      t.input.generation.get? "strategy" = some "consenturl" ∧
        ctx' = ctx.putText Context.consentUrlName request.url ∨
      t.input.generation.get? "strategy" = some "jwt-bearer" ∧
        ∃ assertion, ctx' = ctx.putText Context.assertionName assertion := by
  obtain ⟨hprepare, -⟩ := prepare_eq_ok h
  rcases RequestTemplate.prepare_cases hprepare with ⟨hnone, -⟩ | ⟨name, _, _, _, hname, hof, -⟩
  · exact .inl (prepare_plain hnone h).2
  · rcases RequestTemplate.ofName?_eq_some hof with rfl | rfl
    · exact .inr (.inl ⟨hname, (prepare_consentUrl hname h).1⟩)
    · exact .inr (.inr ⟨hname, prepare_assertion hname h⟩)

end TestCase

end Conformance
