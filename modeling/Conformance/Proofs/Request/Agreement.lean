import Conformance.Proofs.Request.Reads
import Conformance.Proofs.Template.Demands

/-!
# What a prepared request depends on

Preparing a request looks at the values of a context only under the names of the variables in its
templates, the base URL and the signing key. `prepare_congr` compares two requests in two contexts,
field by field: where their fields come to the same, so do the requests, with the same error if there
is one. `prepare_agreement` is the case of one request in two contexts that agree on the names that it
reads: nothing else that tests have left in a context can get into a request.
-/

namespace Conformance

/-! ## Templates and maps -/

namespace Template

variable {ctx ctx' : Context} {mode : Expansion}

theorem expandAll_congr {ps : List Piece}
    (h : ∀ name ∈ ps.filterMap Piece.name?, ctx.getText name = ctx'.getText name) :
    expandAll ctx mode ps = expandAll ctx' mode ps := by
  induction ps with
  | nil => rfl
  | cons p rest ih =>
      cases p with
      | literal c =>
          have hrest : expandAll ctx mode rest = expandAll ctx' mode rest := ih h
          simp only [expandAll, Piece.expand, hrest]
      | «variable» name =>
          obtain ⟨hname, hbehind⟩ := List.forall_mem_cons.mp h
          have hrest : expandAll ctx mode rest = expandAll ctx' mode rest := ih hbehind
          simp only [expandAll, Piece.expand, hname, hrest]

/-- A template is expanded alike with contexts that hold the same under the names of its variables. -/
theorem expand_congr {template : String}
    (h : ∀ name ∈ names template, ctx.values.get? name = ctx'.values.get? name) :
    expand ctx mode template = expand ctx' mode template := by
  rw [expand, expand, expandAll_congr]
  intro name hname
  rw [← names_eq] at hname
  exact Context.getText_congr (Context.get_eq_of_get?_eq (h name hname))

theorem expandOption_congr {template : Option String}
    (h : ∀ s ∈ template.toList, expand ctx mode s = expand ctx' mode s) :
    expandOption ctx mode template = expandOption ctx' mode template := by
  cases template with
  | none => rfl
  | some s => rw [expandOption, expandOption, h s (by simp)]

/-- Two maps of templates with the same keys, whose templates come to the same in two contexts. -/
def AlikeMaps (ctx ctx' : Context) (m m' : KeyMap String) : Prop :=
  List.Forall₂ (fun e e' => e.1 = e'.1 ∧ expand ctx .strict e.2 = expand ctx' .strict e'.2)
    m.entries m'.entries

theorem alikeMaps_self {m : KeyMap String}
    (h : ∀ s ∈ m.vals, expand ctx .strict s = expand ctx' .strict s) : AlikeMaps ctx ctx' m m :=
  List.forall₂_same.mpr fun _ he => ⟨rfl, h _ (List.mem_map_of_mem he)⟩

variable {m m' : KeyMap String}

theorem AlikeMaps.isEmpty (h : AlikeMaps ctx ctx' m m') : m.isEmpty = m'.isEmpty := by
  rw [KeyMap.isEmpty, KeyMap.isEmpty, Bool.eq_iff_iff, List.isEmpty_iff_length_eq_zero,
    List.isEmpty_iff_length_eq_zero, h.length_eq]

theorem AlikeMaps.expandMap (h : AlikeMaps ctx ctx' m m') :
    expandMap ctx .strict m = Template.expandMap ctx' .strict m' :=
  KeyMap.mapM_congr h

end Template

/-! ## Requests -/

namespace RequestTemplate

open Template (AlikeMaps)

variable {r r' : RequestTemplate} {ctx ctx' : Context}

/-- Two requests whose fields come to the same in two contexts, but for their methods. -/
structure Alike (ctx ctx' : Context) (r r' : RequestTemplate) : Prop where
  endpoint : Template.expand ctx .strict r.endpoint = Template.expand ctx' .strict r'.endpoint
  headers : AlikeMaps ctx ctx' r.headers r'.headers
  queryParameters : AlikeMaps ctx ctx' r.queryParameters r'.queryParameters
  formData : AlikeMaps ctx ctx' r.formData r'.formData
  bodyData :
    Template.expandOption ctx .strict r.bodyData = Template.expandOption ctx' .strict r'.bodyData
  claims : AlikeMaps ctx ctx' r.claims r'.claims
  generation : r.generation = r'.generation
  baseUrl : ctx.getText Context.baseUrlName = ctx'.getText Context.baseUrlName
  signingKey :
    ctx.getSigningKey Context.signingKeyName = ctx'.getSigningKey Context.signingKeyName

theorem Alike.withParameters [Idna] (h : Alike ctx ctx' r r') (url : String) :
    withParameters ctx url r.queryParameters =
      RequestTemplate.withParameters ctx' url r'.queryParameters := by
  rw [RequestTemplate.withParameters, RequestTemplate.withParameters, h.queryParameters.isEmpty,
    h.queryParameters.expandMap]

theorem Alike.preparedHeaders (h : Alike ctx ctx' r r') :
    preparedHeaders ctx r.headers = RequestTemplate.preparedHeaders ctx' r'.headers := by
  apply KeyMap.mapM_congr
  refine h.headers.imp fun e e' heq => ⟨heq.1, ?_⟩
  rw [heq.1, heq.2]

theorem Alike.preparePlain [Idna] (hmethod : r.preparedMethod = r'.preparedMethod)
    (h : Alike ctx ctx' r r') : r.preparePlain ctx = r'.preparePlain ctx' := by
  have hurl : r.baseUrl ctx = r'.baseUrl ctx' := by
    unfold RequestTemplate.baseUrl
    rw [h.endpoint, h.baseUrl]
  unfold RequestTemplate.preparePlain
  simp only [hmethod, hurl, h.withParameters, h.preparedHeaders, h.formData.expandMap, h.bodyData]

theorem Alike.applyStrategy [Idna] (h : Alike ctx ctx' r r') (strategy : ClaimStrategy)
    (claims : KeyMap String) (request : PreparedRequest) :
    applyStrategy strategy claims ctx request =
      RequestTemplate.applyStrategy strategy claims ctx' request := by
  unfold RequestTemplate.applyStrategy
  rw [h.signingKey]

/-- Requests are prepared alike when their methods and their other fields come to the same. -/
theorem prepare_congr [Idna] (hmethod : r.preparedMethod = r'.preparedMethod)
    (h : Alike ctx ctx' r r') : r.prepare ctx = r'.prepare ctx' := by
  unfold RequestTemplate.prepare
  simp only [h.preparePlain hmethod, h.generation, h.claims.expandMap, h.applyStrategy]

/-! ## One request in two contexts -/

/-- The names that preparing a request reads. -/
def readNames (r : RequestTemplate) : List String :=
  Context.baseUrlName :: Context.signingKeyName :: r.templates.flatMap Template.names

theorem alike_of_agree
    (h : ∀ name ∈ r.readNames, ctx.values.get? name = ctx'.values.get? name) : Alike ctx ctx' r r := by
  obtain ⟨hbase, hkey, hnames⟩ :
      ctx.values.get? Context.baseUrlName = ctx'.values.get? Context.baseUrlName ∧
        ctx.values.get? Context.signingKeyName = ctx'.values.get? Context.signingKeyName ∧
          ∀ name ∈ r.templates.flatMap Template.names,
            ctx.values.get? name = ctx'.values.get? name := by
    simpa only [readNames, List.forall_mem_cons] using h
  have hexpand : ∀ s ∈ r.templates,
      Template.expand ctx .strict s = Template.expand ctx' .strict s := fun s hs =>
    Template.expand_congr fun name hname => hnames name (List.mem_flatMap.mpr ⟨s, hs, hname⟩)
  have hmap : ∀ m ∈ r.maps, AlikeMaps ctx ctx' m m := fun m hm =>
    Template.alikeMaps_self fun s hs => by
      obtain ⟨e, he, rfl⟩ := List.mem_map.mp hs
      exact hexpand _ (mem_templates_of_entry hm he)
  exact {
    endpoint := hexpand _ (by simp [templates])
    headers := hmap _ (by simp [maps])
    queryParameters := hmap _ (by simp [maps])
    formData := hmap _ (by simp [maps])
    bodyData := Template.expandOption_congr fun s hs => hexpand s (by simp_all [templates])
    claims := hmap _ (by simp [maps])
    generation := rfl
    baseUrl := Context.getText_congr (Context.get_eq_of_get?_eq hbase)
    signingKey := by rw [Context.getSigningKey, Context.getSigningKey, Context.get_eq_of_get?_eq hkey] }

theorem prepare_of_agree [Idna]
    (h : ∀ name ∈ r.readNames, ctx.values.get? name = ctx'.values.get? name) :
    r.prepare ctx = r.prepare ctx' :=
  prepare_congr rfl (alike_of_agree h)

/-- **Agreement.** A request is prepared alike in any two contexts that hold the same, or nothing in
either, under each name of a variable in its endpoint, headers, parameters, form, body and claims,
and as base URL and signing key: with the same outcome, be it a request or an error. Assertions are
compared without what differs from one signing to the next. -/
theorem prepare_agreement [Idna]
    (hvariables : ∀ s ∈ r.templates, ∀ name ∈ Template.names s,
      ctx.values.get? name = ctx'.values.get? name)
    (hbase : ctx.values.get? Context.baseUrlName = ctx'.values.get? Context.baseUrlName)
    (hkey : ctx.values.get? Context.signingKeyName = ctx'.values.get? Context.signingKeyName) :
    r.prepare ctx = r.prepare ctx' := by
  apply prepare_of_agree
  simp only [readNames, List.forall_mem_cons, List.mem_flatMap]
  refine ⟨hbase, hkey, ?_⟩
  rintro name ⟨s, hs, hname⟩
  exact hvariables s hs name hname

/-! ## A request among the values of other tests -/

/-- A request that asks for a consent. -/
def consentRequest : RequestTemplate where
  method := "POST"
  endpoint := "/account-access-consents"
  headers := .ofList [("Authorization", "Bearer $client_access_token")]
  bodyData := some "[$permission_list]"

/-- The values that it needs. -/
def consentValues : Context :=
  .ofList [("baseurl", .text "https://aspsp.example"), ("client_access_token", .text "at-1"),
    ("permission_list", .text "\"ReadBalances\"")]

/-- The same values among others. -/
def crowdedValues : Context :=
  consentValues.overlay (.ofList [("accountToken0001", .text "aac-7"), ("consent_url", .text "u"),
    ("permissions", .texts ["ReadPAN"])])

/-- What other tests have left does not get into the request. -/
theorem consentRequest_agreement :
    (∀ s ∈ consentRequest.templates, ∀ name ∈ Template.names s,
        consentValues.values.get? name = crowdedValues.values.get? name) ∧
      consentValues.values.get? "baseurl" = crowdedValues.values.get? "baseurl" ∧
      consentValues.values.get? "signing_key" = crowdedValues.values.get? "signing_key" ∧
      consentValues ≠ crowdedValues ∧
      consentRequest.prepare consentValues = consentRequest.prepare crowdedValues ∧
      (consentRequest.prepare crowdedValues).map (·.body) = .ok (some "[\"ReadBalances\"]") := by
  have hvariables : ∀ s ∈ consentRequest.templates, ∀ name ∈ Template.names s,
      consentValues.values.get? name = crowdedValues.values.get? name := by decide
  exact ⟨hvariables, by decide, by decide, by decide,
    prepare_agreement hvariables (by decide) (by decide), by decide +kernel⟩

end RequestTemplate

end Conformance
