import Conformance.Proofs.Request.Headers
import Conformance.Proofs.Token.Grouping
import Conformance.Proofs.Token.Naming
import Conformance.Token.Plan
import Mathlib.Data.List.Forall2
import Mathlib.Data.List.Nodup

/-!
# Pointing test cases at their tokens

What becomes of test cases that are pointed at the tokens which were found for them. `Assigned`
says it of one test case: nothing but its authorization may change, and if it declares permissions
it is sent with a token that has them. `assignTokens_assigned` follows a test case all the way: its
permissions into a need, the need into the group that serves it, the identifier back to the token of
that group, and the name of the token through the template of the header into the request.
-/

namespace Conformance

/-! ## Permission needs -/

/-- The permissions that a test case declares. -/
def TestCase.need (t : TestCase) : PermissionNeed :=
  { id := t.id, required := t.permissions, excluded := t.permissionsExcluded }

theorem mem_permissionNeeds {tests : List TestCase} {n : PermissionNeed} :
    n ∈ permissionNeeds tests ↔
      ∃ t ∈ tests, t.context.contains TestCase.permissionsName = true ∧ t.need = n := by
  simp [permissionNeeds, TestCase.need, List.mem_map, List.mem_filter, and_assoc]

/-! ## Finding the token of a test case -/

/-- A token that covers a test case has what the test case needs. -/
def TokenRequirement.Covers (token : TokenRequirement) (t : TestCase) : Prop :=
  (∀ c ∈ t.permissions, c ≠ "" → c ∈ token.required) ∧
    (∀ c ∈ t.permissionsExcluded, c ≠ "" → c ∈ token.excluded) ∧
    ∀ c ∈ t.permissionsExcluded, c ∉ token.required

theorem TokenRequirement.Serves.covers {token : TokenRequirement} {members : List PermissionNeed}
    (h : token.Serves members) {t : TestCase} (ht : t.need ∈ members) : token.Covers t := by
  refine ⟨fun c hc hne => ?_, fun c hc hne => ?_, fun c hc hreq => ?_⟩
  · exact (h.mem_required c).mpr ⟨hne, t.need, ht, hc⟩
  · exact (h.mem_excluded c).mpr ⟨hne, t.need, ht, hc⟩
  · exact (h.required_free c hreq).2 t.need ht hc

namespace Grouping

variable {tests : List TestCase} {slots : List Nat} {tokens : List TokenRequirement}

/-- A token that lists the identifier of a test case serves the need of that very test case, since
no other one has its identifier. -/
theorem need_mem_of_id_mem (h : Grouping (permissionNeeds tests) slots tokens)
    (hids : (tests.map (·.id)).Nodup) {t : TestCase} (ht : t ∈ tests) {token : TokenRequirement}
    (htoken : token ∈ tokens) (hid : t.id ∈ token.ids) :
    t.context.contains TestCase.permissionsName = true ∧ token.Covers t := by
  obtain ⟨k, hk⟩ := List.getElem?_of_mem htoken
  have hserves := h.serves k token hk
  rw [hserves.ids_eq] at hid
  obtain ⟨n, hn, hid⟩ := List.mem_map.mp hid
  obtain ⟨t', ht', hcontains, rfl⟩ := mem_permissionNeeds.mp (mem_of_mem_membersAt hn)
  have heq : t' = t := List.inj_on_of_nodup_map hids ht' ht hid
  subst heq
  exact ⟨hcontains, hserves.covers hn⟩

/-- A test case that declares permissions is listed by a token. -/
theorem exists_id_mem (h : Grouping (permissionNeeds tests) slots tokens) {t : TestCase}
    (ht : t ∈ tests) (hcontains : t.context.contains TestCase.permissionsName = true) :
    ∃ token ∈ tokens, t.id ∈ token.ids := by
  obtain ⟨k, token, hk, hn⟩ :=
    h.exists_serves (mem_permissionNeeds.mpr ⟨t, ht, hcontains, rfl⟩)
  refine ⟨token, List.mem_of_getElem? hk, ?_⟩
  rw [(h.serves k token hk).ids_eq]
  exact List.mem_map_of_mem hn

/-- The first token that lists the identifier of a test case covers that test case. -/
theorem find?_covers (h : Grouping (permissionNeeds tests) slots tokens)
    (hids : (tests.map (·.id)).Nodup) {t : TestCase} (ht : t ∈ tests)
    (hcontains : t.context.contains TestCase.permissionsName = true) :
    ∃ token ∈ tokens, tokens.find? (fun u => u.ids.contains t.id) = some token ∧
      token.Covers t := by
  obtain ⟨listed, hlisted, hid⟩ := h.exists_id_mem ht hcontains
  have hsome : (tokens.find? fun u => u.ids.contains t.id).isSome = true :=
    List.find?_isSome.mpr ⟨listed, hlisted, by simpa using hid⟩
  obtain ⟨token, hfind⟩ := Option.isSome_iff_exists.mp hsome
  have htoken := List.mem_of_find?_eq_some hfind
  have hcov := h.need_mem_of_id_mem hids ht htoken (by simpa using List.find?_some hfind)
  exact ⟨token, htoken, hfind, hcov.2⟩

/-- A test case that declares no permissions is listed by no token. -/
theorem find?_eq_none (h : Grouping (permissionNeeds tests) slots tokens)
    (hids : (tests.map (·.id)).Nodup) {t : TestCase} (ht : t ∈ tests)
    (hcontains : ¬ t.context.contains TestCase.permissionsName = true) :
    tokens.find? (fun u => u.ids.contains t.id) = none := by
  rw [List.find?_eq_none]
  intro token htoken hid
  exact hcontains (h.need_mem_of_id_mem hids ht htoken (by simpa using hid)).1

end Grouping

theorem TokenRequirement.Covers.restricted {token : TokenRequirement} {t : TestCase}
    (h : token.Covers t) (hcode : ∃ c, c ≠ "" ∧ (c ∈ t.permissions ∨ c ∈ t.permissionsExcluded)) :
    token.isUnrestricted = false := by
  obtain ⟨c, hne, hc | hc⟩ := hcode
  · have hmem := h.1 c hc hne
    cases hr : token.required with
    | nil => simp [hr] at hmem
    | cons => simp [TokenRequirement.isUnrestricted, hr]
  · have hmem := h.2.1 c hc hne
    cases he : token.excluded with
    | nil => simp [he] at hmem
    | cons => simp [TokenRequirement.isUnrestricted, he]

/-! ## Assignment -/

/-- What becomes of one test case that is pointed at its token. -/
structure Assigned [Idna] (tokens : List TokenRequirement) (t t' : TestCase) : Prop where
  /-- Apart from its headers the test case stays as it was. -/
  same_fields : t' = { t with input := { t.input with headers := t'.input.headers } }
  /-- So does every header but the authorization. -/
  same_headers : ∀ name, name ≠ authorizationHeader →
    t'.input.headers.get? name = t.input.headers.get? name
  /-- Without declared permissions nothing changes at all. -/
  untouched : t.context.contains TestCase.permissionsName = false → t' = t
  /-- With some permission the test case is sent with a token that has what it needs. -/
  authorized : t.context.contains TestCase.permissionsName = true →
    (∃ c, c ≠ "" ∧ (c ∈ t.permissions ∨ c ∈ t.permissionsExcluded)) →
    ∃ token ∈ tokens,
      t'.input.headers.get? authorizationHeader = some ("Bearer $" ++ token.name) ∧
      (∀ c ∈ t.permissions, c ≠ "" → c ∈ token.required) ∧
      (∀ c ∈ t.permissionsExcluded, c ∉ token.required) ∧
      ∀ ctx v request ctx', ctx.getText token.name = .ok v →
        t'.prepare ctx = .ok (request, ctx') →
        request.headers.get? authorizationHeader = some ("Bearer " ++ v)

/-- Whatever the tokens are, only the authorization of a test case may change. -/
theorem assignToken_frame (tokens : List TokenRequirement) (t : TestCase) :
    assignToken tokens t =
        { t with input := { t.input with headers := (assignToken tokens t).input.headers } } ∧
      ∀ name, name ≠ authorizationHeader →
        (assignToken tokens t).input.headers.get? name = t.input.headers.get? name := by
  unfold assignToken
  split
  · exact ⟨rfl, fun _ _ => rfl⟩
  · split
    · exact ⟨rfl, fun _ _ => rfl⟩
    · exact ⟨rfl, fun name hname => KeyMap.get?_put_of_ne _ (Ne.symm hname) _⟩

/-- Preparing a test case sends the token that the shared context holds under its name. -/
theorem prepared_authorization [Idna] {stem : String}
    (hstem : ∀ c ∈ stem.toList, Template.isNameChar c = true) (number : Nat) {t : TestCase}
    (ht : t.input.headers.get? authorizationHeader =
      some ("Bearer $" ++ TokenStore.tokenName stem number))
    {ctx ctx' : Context} {v : String} {request : PreparedRequest}
    (hv : ctx.getText (TokenStore.tokenName stem number) = .ok v)
    (h : t.prepare ctx = .ok (request, ctx')) :
    request.headers.get? authorizationHeader = some ("Bearer " ++ v) :=
  TestCase.prepared_header_variable "Bearer " h (by decide)
    (TokenStore.tokenName_ne_empty stem number) (TokenStore.isNameChar_tokenName hstem number)
    ht hv

theorem assignToken_assigned [Idna] {stem : String} {tests : List TestCase}
    {tokens : List TokenRequirement}
    (hstem : ∀ c ∈ stem.toList, Template.isNameChar c = true)
    (hids : (tests.map (·.id)).Nodup)
    (hres : TokenStore.resolve stem (permissionNeeds tests) = .ok tokens)
    {t : TestCase} (ht : t ∈ tests) : Assigned tokens t (assignToken tokens t) := by
  obtain ⟨-, slots, hgroup⟩ := TokenStore.resolve_ok_grouping hres
  refine ⟨(assignToken_frame tokens t).1, (assignToken_frame tokens t).2, ?_, ?_⟩
  · intro hnone
    simp only [assignToken, hgroup.find?_eq_none hids ht (by simp [hnone])]
  · intro hcontains hcode
    obtain ⟨token, htoken, hfind, hcov⟩ := hgroup.find?_covers hids ht hcontains
    have hhead : (assignToken tokens t).input.headers.get? authorizationHeader =
        some ("Bearer $" ++ token.name) := by
      simp only [assignToken, hfind, hcov.restricted hcode]
      exact KeyMap.get?_put_self ..
    refine ⟨token, htoken, hhead, hcov.1, hcov.2.2, ?_⟩
    intro ctx v request ctx' hv hprep
    obtain ⟨number, hname⟩ := TokenStore.resolve_name hres token htoken
    rw [hname] at hhead hv
    exact prepared_authorization hstem number hhead hv hprep

/-- **Every test case is sent with its token.** Test cases with distinct identifiers that are
pointed at the tokens found for them keep everything but their authorization. One that declares a
permission is sent with a token that has all that it requires and nothing that it excludes. -/
theorem assignTokens_assigned [Idna] {tests : List TestCase} {specType : SpecType}
    {tokens : List TokenRequirement} (hids : (tests.map (·.id)).Nodup)
    (htype : specType = .accounts ∨ specType = .funds)
    (hok : requiredTokens tests specType = .ok tokens) :
    List.Forall₂ (Assigned tokens) tests (assignTokens tokens tests) := by
  have hres : TokenStore.resolve specType.tokenStem (permissionNeeds tests) = .ok tokens := by
    rcases htype with rfl | rfl <;> exact hok
  rw [assignTokens, List.forall₂_map_right_iff, List.forall₂_same]
  intro t ht
  exact assignToken_assigned specType.isNameChar_tokenStem hids hres ht

/-- Three test cases: one needs a permission that the second refuses, and the last declares none but
has an authorization of its own. -/
def sampleTests : List TestCase :=
  [{ id := "balances", input := { method := "GET", endpoint := "/balances" },
     context := .ofList [(TestCase.permissionsName, .texts ["ReadBalances", ""])] },
   { id := "refused", input := { method := "GET", endpoint := "/balances" },
     context := .ofList [(TestCase.permissionsName, .texts []),
       (TestCase.excludedName, .texts ["ReadBalances"])] },
   { id := "open"
     input := {
       method := "GET"
       endpoint := "/open"
       headers := .ofList [(authorizationHeader, "Basic")] } }]

/-- The tokens of the sample. -/
def sampleTokens : List TokenRequirement :=
  [{ name := "accountToken0001", ids := ["balances"], required := ["ReadBalances"] },
   { name := "accountToken0002", ids := ["refused"], excluded := ["ReadBalances"] }]

theorem sampleTests_assigned :
    (sampleTests.map (·.id)).Nodup ∧ requiredTokens sampleTests .accounts = .ok sampleTokens ∧
      List.Forall₂ (Assigned sampleTokens) sampleTests
        (assignTokens sampleTokens sampleTests) :=
  ⟨by decide, rfl, assignTokens_assigned (by decide) (.inl rfl) rfl⟩

end Conformance
