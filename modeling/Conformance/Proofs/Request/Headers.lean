import Conformance.Proofs.Request.Prepare
import Conformance.Proofs.Template

/-!
# Headers of prepared requests

A prepared request has the headers of its template, each expanded (`prepare_headers`):
`preparedHeaders_get?` says so of one header, and `prepared_header_variable` what becomes of a header
that ends in a variable when a test case is prepared.
-/

namespace Conformance

namespace RequestTemplate

/-! ## Expanding headers -/

theorem preparedHeaders_get? {ctx : Context} {headers prepared : KeyMap String}
    (h : preparedHeaders ctx headers = .ok prepared) {name template : String}
    (ht : headers.get? name = some template) :
    ∃ value, Template.expand ctx .strict template = .ok value ∧ breaksLine value = false ∧
      prepared.get? name = some value := by
  obtain ⟨value, hvalue, hget⟩ := KeyMap.get?_mapM h ht
  split at hvalue
  · cases hvalue
  next hexpand =>
    split at hvalue
    · cases hvalue
    next hbreak =>
      cases hvalue
      exact ⟨value, hexpand, by simpa using hbreak, hget⟩

/-! ## Preparing -/

/-- Using claims leaves the headers of a request as they are. -/
theorem applyStrategy_headers [Idna] {strategy : ClaimStrategy} {claims : KeyMap String}
    {ctx : Context} {request request' : PreparedRequest}
    (h : applyStrategy strategy claims ctx request = .ok request') :
    request'.headers = request.headers := by
  cases strategy with
  | consentUrl =>
      obtain ⟨url, -, rfl⟩ := applyStrategy_consentUrl h
      rfl
  | jwtBearer =>
      obtain ⟨assertion, rfl⟩ := applyStrategy_jwtBearer h
      rfl

theorem prepare_headers [Idna] {r : RequestTemplate} {ctx : Context} {request : PreparedRequest}
    (h : r.prepare ctx = .ok request) :
    preparedHeaders ctx r.headers = .ok request.headers := by
  rcases prepare_cases h with ⟨-, hplain⟩ | ⟨_, _, _, plain, -, -, hplain, -, happly⟩
  · exact hplain.headers
  · rw [applyStrategy_headers happly]
    exact hplain.headers

end RequestTemplate

/-- A header that ends in a variable goes out with the text that the shared context holds for it,
whatever the test case itself holds under that name. -/
theorem TestCase.prepared_header_variable [Idna] (front : String) {t : TestCase}
    {ctx ctx' : Context} {request : PreparedRequest} (h : t.prepare ctx = .ok (request, ctx'))
    {header name value : String} (hfront : '$' ∉ front.toList) (hne : name ≠ "")
    (hname : ∀ c ∈ name.toList, Template.isNameChar c = true)
    (ht : t.input.headers.get? header = some (front ++ "$" ++ name))
    (hv : ctx.getText name = .ok value) : request.headers.get? header = some (front ++ value) := by
  have hheaders := RequestTemplate.prepare_headers (prepare_eq_ok h).1
  obtain ⟨text, htext, -, hget⟩ := RequestTemplate.preparedHeaders_get? hheaders ht
  have hworking : (t.workingContext ctx).getText name = .ok value :=
    Context.getText_overlay hv
  rw [Template.expand_variable .strict hfront hne hname hworking] at htext
  cases htext
  exact hget

end Conformance
