import Conformance.Proofs.Request.Agreement
import Conformance.Proofs.Walk

/-!
# Preparing a test case again

Preparing a test case reads its own context under the shared one and writes at most one text into the
shared one: the URL at which a consent is authorised, or an assertion (`prepare_generated`). A request
whose templates do not mention these two names therefore finds the same values again when it is
prepared with the context that it has left, and writes the same text. `prepare_stable` says this, what
a preparation that fails leaves, and which of two values under one name counts.
-/

namespace Conformance

/-! ## What preparing writes -/

/-- The names under which preparing keeps what it has made. -/
def Context.generatedNames : List String := [Context.consentUrlName, Context.assertionName]

/-- Preparing a request makes at most one text for the context. -/
theorem RequestTemplate.prepare_generated [Idna] {r : RequestTemplate} {ctx : Context}
    {request : PreparedRequest} (h : r.prepare ctx = .ok request) :
    request.generated.entries = [] ∨
      ∃ key ∈ Context.generatedNames, ∃ s, request.generated.entries = [(key, s)] := by
  rcases prepare_cases h with ⟨-, hplain⟩ | ⟨_, strategy, _, plain, -, -, hplain, -, happly⟩
  · left
    rw [hplain.generated]
    rfl
  · right
    cases strategy with
    | consentUrl =>
        obtain ⟨url, -, rfl⟩ := applyStrategy_consentUrl happly
        refine ⟨Context.consentUrlName, by simp [Context.generatedNames], url.render, ?_⟩
        dsimp only
        rw [hplain.generated]
        rfl
    | jwtBearer =>
        obtain ⟨assertion, rfl⟩ := applyStrategy_jwtBearer happly
        refine ⟨Context.assertionName, by simp [Context.generatedNames], assertion, ?_⟩
        dsimp only
        rw [hplain.generated]
        rfl

namespace TestCase

variable {t : TestCase} {ctx ctx' : Context} {request : PreparedRequest}

/-- So it leaves the shared context as it was, but for one text under one of two names. -/
theorem prepare_leaves [Idna] (h : t.prepare ctx = .ok (request, ctx')) :
    ctx' = ctx ∨ ∃ key ∈ Context.generatedNames, ∃ s, ctx' = ctx.putText key s := by
  obtain ⟨hprepare, rfl⟩ := prepare_eq_ok h
  rcases RequestTemplate.prepare_generated hprepare with hnone | ⟨key, hkey, s, hsome⟩
  · rw [hnone]
    exact .inl rfl
  · rw [hsome]
    exact .inr ⟨key, hkey, s, rfl⟩

theorem prepare_keeps [Idna] (h : t.prepare ctx = .ok (request, ctx')) {key : String}
    (hkey : key ∉ Context.generatedNames) : ctx'.values.get? key = ctx.values.get? key := by
  rcases prepare_leaves h with rfl | ⟨name, hname, s, rfl⟩
  · rfl
  · refine KeyMap.get?_put_of_ne _ (fun heq => hkey ?_) _
    rwa [← heq]

/-- Writing the same again changes nothing. -/
theorem putTexts_again [Idna] (h : t.prepare ctx = .ok (request, ctx')) :
    ctx'.putTexts request.generated.entries = ctx' := by
  obtain ⟨hprepare, rfl⟩ := prepare_eq_ok h
  rcases RequestTemplate.prepare_generated hprepare with hnone | ⟨key, -, s, hsome⟩
  · rw [hnone]
    rfl
  · rw [hsome]
    exact Context.putText_putText ctx key s s

/-! ## What preparing reads -/

theorem workingContext_get? (t : TestCase) (ctx : Context) (key : String) :
    (t.workingContext ctx).values.get? key =
      (ctx.values.get? key).or (t.context.values.get? key) :=
  KeyMap.get?_overlay ..

/-- What the test's own context holds under a name that is set in the shared one does not count. -/
theorem prepare_own_hidden [Idna] {own : Context}
    (h : ∀ key, ctx.contains key = false →
      own.values.get? key = t.context.values.get? key) :
    { t with context := own }.prepare ctx = t.prepare ctx := by
  have hworking : ∀ key, ({ t with context := own }.workingContext ctx).values.get? key =
      (t.workingContext ctx).values.get? key := by
    intro key
    rw [workingContext_get?, workingContext_get?]
    cases hctx : ctx.values.get? key with
    | some v => rfl
    | none => exact h key (by rw [Context.contains, KeyMap.contains, hctx]; rfl)
  unfold prepare
  rw [RequestTemplate.prepare_of_agree fun key _ => hworking key]

/-- A request that does not read what preparing writes is prepared alike again. -/
theorem prepare_again [Idna] (h : t.prepare ctx = .ok (request, ctx'))
    (hfree : ∀ s ∈ t.input.templates, ∀ name ∈ Template.names s, name ∉ Context.generatedNames) :
    t.prepare ctx' = .ok (request, ctx') := by
  have hreads : ∀ name ∈ t.input.readNames, name ∉ Context.generatedNames := by
    simp only [RequestTemplate.readNames, List.forall_mem_cons, List.mem_flatMap]
    refine ⟨by decide, by decide, ?_⟩
    rintro name ⟨s, hs, hname⟩
    exact hfree s hs name hname
  have hsame : t.input.prepare (t.workingContext ctx') = t.input.prepare (t.workingContext ctx) := by
    apply RequestTemplate.prepare_of_agree
    intro name hname
    rw [workingContext_get?, workingContext_get?, prepare_keeps h (hreads name hname)]
  unfold prepare
  rw [hsame, (prepare_eq_ok h).1]
  dsimp only
  rw [putTexts_again h]

/-! ## Test cases -/

/-- **Preparing and preparing again.** Where a test case cannot be prepared, a walk that has come to it
goes on with the shared context as it was. Where it is prepared, the shared context has changed at
most under the two names of what preparing makes; the request was made with the values of the shared
context wherever that sets a name, and with the test's own values only elsewhere, which do not count
otherwise; and if no template mentions the two names, preparing the test case again with the context
that was left yields the same request and leaves that context as it is. Assertions are compared
without what differs from one signing to the next. -/
theorem prepare_stable [Idna] (t : TestCase) (ctx : Context) :
    (∀ e, t.prepare ctx = .error e →
      ∀ w : Walk, ∀ remaining, w.ctx = ctx → w.place = .before (t :: remaining) →
        ∃ result, result.pass = false ∧
          w.advance false = (some result, w.leave t result ctx remaining)) ∧
      ∀ request ctx', t.prepare ctx = .ok (request, ctx') →
        (∀ key, ctx'.values.get? key ≠ ctx.values.get? key →
          key = Context.consentUrlName ∨ key = Context.assertionName) ∧
        t.input.prepare (t.workingContext ctx) = .ok request ∧
        (∀ key v, ctx.values.get? key = some v →
          (t.workingContext ctx).values.get? key = some v) ∧
        (∀ own : Context, (∀ key, ctx.contains key = false →
            own.values.get? key = t.context.values.get? key) →
          { t with context := own }.prepare ctx = .ok (request, ctx')) ∧
        ((∀ s ∈ t.input.templates,
            Context.consentUrlName ∉ Template.names s ∧ Context.assertionName ∉ Template.names s) →
          t.prepare ctx' = .ok (request, ctx')) := by
  constructor
  · rintro e he w remaining rfl hplace
    have hbegin : t.begin w.ctx = .error (.failed t {} [{ generalError := e.message }]) := by
      rw [begin, he]
    exact ⟨_, rfl, Walk.advance_unprepared hplace hbegin⟩
  · intro request ctx' h
    refine ⟨?_, (prepare_eq_ok h).1, ?_, ?_, ?_⟩
    · intro key hkey
      by_contra hno
      exact hkey (prepare_keeps h (by simpa [Context.generatedNames] using hno))
    · intro key v hv
      rw [workingContext_get?, hv]
      rfl
    · intro own hown
      rw [prepare_own_hidden hown, h]
    · intro hfree
      apply prepare_again h
      intro s hs name hname hmem
      rcases List.mem_pair.mp hmem with rfl | rfl
      · exact (hfree s hs).1 hname
      · exact (hfree s hs).2 hname

/-- A test case that has a token of its own. -/
def ownToken : TestCase where
  id := "accounts"
  input := { method := "GET", endpoint := "/accounts",
             headers := .ofList [("Authorization", "Bearer $client_access_token")] }
  context := .ofList [("client_access_token", .text "own")]

/-- A shared context that has another one. -/
def sharedToken : Context :=
  .ofList [("baseurl", .text "https://bank.example"), ("client_access_token", .text "shared")]

/-- The request has the token of the shared context, which is left as it was, and it is the same
without the token of the test case itself. -/
theorem ownToken_hidden :
    ∃ request, ownToken.prepare sharedToken = .ok (request, sharedToken) ∧
      request.headers.get? "Authorization" = some "Bearer shared" ∧
      { ownToken with context := .empty }.prepare sharedToken = .ok (request, sharedToken) := by
  have hprepare : ownToken.prepare sharedToken = .ok
      ({ method := "GET", url := "https://bank.example/accounts"
         headers := .ofList [("Authorization", "Bearer shared")], formData := .empty
         body := none, generated := .empty }, sharedToken) := by
    decide +kernel
  obtain ⟨-, -, -, hown, -⟩ := (prepare_stable ownToken sharedToken).2 _ _ hprepare
  refine ⟨_, hprepare, by decide, hown .empty fun key hkey => ?_⟩
  have hother : "client_access_token" ≠ key := by
    rintro rfl
    exact absurd hkey (by decide)
  exact (KeyMap.get?_put_of_ne .empty hother _).symm

end TestCase

end Conformance
