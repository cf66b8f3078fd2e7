import Conformance.Consent.Item
import Conformance.Grant
import Conformance.Proofs.Json.Reading
import Conformance.Token.Requirement

/-!
# Documents read back

What is written as a document is read back from its text: suites, the tokens of a specification, consent
items and granted tokens (`documents_read_back`). Only the handles in the contexts of test cases are not
written, so they are lost; what has been read back once is written as the same text again.

Each kind of record is shown to read back member by member, in the order in which it is written
(`MatchRule.reads`, `Expect.reads`, …). The number in these statements is how many arrays and objects
stand within one another; it stays far below the limit of the reader.
-/

namespace Conformance

open Json

variable {need : Nat}

/-! ## What is visible in documents -/

/-- Whether a value is written in documents. -/
def Context.Value.isVisible : Context.Value → Bool
  | .handle _ => false
  | _ => true

/-- A context without its handles. -/
def Context.visible (ctx : Context) : Context :=
  ⟨⟨ctx.values.entries.filter fun e => e.2.isVisible, ctx.values.ordered.filter _⟩⟩

/-- A test case without the handles of its context. -/
def TestCase.visible (t : TestCase) : TestCase := { t with context := t.context.visible }

/-- The test cases of a specification without the handles of their contexts. -/
def SpecificationCases.visible (s : SpecificationCases) : SpecificationCases :=
  { s with testCases := s.testCases.map TestCase.visible }

/-- A suite without the handles of the contexts of its test cases. -/
def Suite.visible (s : Suite) : Suite :=
  { s with specifications := s.specifications.map SpecificationCases.visible }

/-! ## Contexts -/

namespace Context

/-- A value as a document; handles are not written. -/
def Value.toJson : Value → Json
  | .text s => .string s
  | .texts items => .strings items
  | .handle _ => .null

theorem members_eq (entries : List (String × Value)) :
    members entries = (entries.filter fun e => e.2.isVisible).map fun e => (e.1, e.2.toJson) := by
  induction entries with
  | nil => rfl
  | cons e rest ih =>
      obtain ⟨k, v⟩ := e
      cases v with
      | text s => exact congrArg (List.cons _) ih
      | texts items => exact congrArg (List.cons _) ih
      | handle h => exact ih

theorem toJson_eq (ctx : Context) : ctx.toJson = ofKeyMap Value.toJson ctx.visible.values :=
  congrArg Json.object (members_eq _)

theorem toJson_visible (ctx : Context) : ctx.visible.toJson = ctx.toJson := by
  have hvisible : ctx.visible.visible = ctx.visible :=
    congrArg Context.mk (KeyMap.ext_entries (by simp [visible, List.filter_filter]))
  rw [toJson_eq, toJson_eq, hvisible]

theorem allTexts?_strings (items : List String) :
    allTexts? (items.map Json.string) = some items := by
  induction items with
  | nil => rfl
  | cons s rest ih => rw [List.map_cons, allTexts?, ih, Option.map_some]

theorem readValue_reads {v : Value} (h : v.isVisible = true) :
    Reads readValue (need + 1) v.toJson v := by
  cases v with
  | text s => exact ⟨scans_string s, fun _ _ => rfl⟩
  | texts items =>
      have htexts : Reads (Draft.list Draft.text) (need + 1) (strings items) items :=
        reads_texts items
      refine ⟨htexts.scans, fun depth hdepth => ?_⟩
      obtain ⟨k, rfl⟩ := Nat.exists_eq_add_of_le' (Nat.le_of_add_left_le hdepth)
      have hvalue : Draft.value (k + 1) (strings items).draft = .ok (strings items) :=
        (value_strings items).read (k + 1) (Nat.le_add_left 1 k)
      rw [readValue, Value.toJson, hvalue]
      simp only [bind, Except.bind, strings, allTexts?_strings]
      rfl
  | handle h' => cases h

theorem reads (ctx : Context) : Reads reader (need + 2) ctx.toJson ctx.visible := by
  have hmap : Reads (Draft.keyMap readValue) (need + 2) ctx.toJson ctx.visible.values := by
    rw [toJson_eq]
    exact reads_keyMap fun e he => readValue_reads (List.mem_filter.mp he).2
  refine ⟨hmap.scans, fun depth hdepth => ?_⟩
  rw [reader, hmap.read depth hdepth]
  rfl

end Context

/-! ## Test cases -/

theorem MatchRule.reads (r : MatchRule) : Reads reader (need + 1) r.toJson r :=
  reads_record
    ((takes_nil setField {})
      |>.unlessBlank "description" r.description (fun _ _ => rfl) rfl
      |>.unlessBlank "name" r.contextName (fun _ _ => rfl) rfl
      |>.unlessBlank "header" r.header (fun _ _ => rfl) rfl
      |>.unlessBlank "header-present" r.headerPresent (fun _ _ => rfl) rfl
      |>.unlessBlank "regex" r.regex (fun _ _ => rfl) rfl
      |>.unlessBlank "json" r.json (fun _ _ => rfl) rfl
      |>.unlessBlank "value" r.value (fun _ _ => rfl) rfl
      |>.whenSome "body-length" r.bodyLength reads_uint64 nofun (fun _ _ => rfl) rfl
      |>.unlessBlank "authorisation" r.authorisation (fun _ _ => rfl) rfl)
    rfl (by decide) (by decide)

/-- The extractions stand in an object of their own. -/
theorem Expect.extractions_read (rules : List MatchRule) :
    Reads extractionsReader (need + 3) (.object (unlessNone "matches" rules MatchRule.toJson))
      rules :=
  reads_record
    ((takes_nil (fun _ depth d _ => Draft.list MatchRule.reader depth d) ([] : List MatchRule))
      |>.unlessNone "matches" rules MatchRule.reads (fun _ _ => (bind_pure _).symm) rfl)
    rfl (by decide) (by decide)

theorem Expect.reads (e : Expect) : Reads reader (need + 4) e.toJson e := by
  have hextractions : Takes setField (need + 3) ["contextPut"] []
      (let extractions := unlessNone "matches" e.extractions MatchRule.toJson
        if extractions.isEmpty then [] else [("contextPut", .object extractions)])
      { e with extractions := [] } e := by
    obtain ⟨status, validation, rules, extractions⟩ := e
    cases extractions with
    | nil => exact takes_nothing setField "contextPut" rfl
    | cons r rest =>
        exact (takes_singleton (fun _ _ => rfl) (Expect.extractions_read (r :: rest))).forget
  exact reads_record
    ((takes_nil setField {})
      |>.member "status-code" (reads_uint16 e.statusCode) (fun _ _ => rfl)
      |>.member "schema-validation" (reads_flag e.schemaValidation) (fun _ _ => rfl)
      |>.unlessNone "matches" e.rules MatchRule.reads (fun _ _ => rfl) rfl
      |>.append hextractions)
    rfl (by decide) (by decide)

theorem RequestTemplate.reads (r : RequestTemplate) : Reads reader (need + 2) r.toJson r :=
  reads_record
    ((takes_nil setField { method := "", endpoint := "" })
      |>.member "method" (reads_text r.method) (fun _ _ => rfl)
      |>.member "endpoint" (reads_text r.endpoint) (fun _ _ => rfl)
      |>.unlessEmpty "headers" r.headers (fun _ _ => rfl) rfl
      |>.unlessEmpty "queryParameters" r.queryParameters (fun _ _ => rfl) rfl
      |>.unlessEmpty "formData" r.formData (fun _ _ => rfl) rfl
      |>.whenSome "bodyData" r.bodyData reads_text nofun (fun _ _ => rfl) rfl
      |>.unlessEmpty "generation" r.generation (fun _ _ => rfl) rfl
      |>.unlessEmpty "claims" r.claims (fun _ _ => rfl) rfl)
    rfl (by decide) (by decide)

/-- A test case is read back without the handles of its context. -/
theorem TestCase.reads (t : TestCase) : Reads reader (need + 5) t.toJson t.visible := by
  have hmembers : t.toJson =
      .object ([("@id", .string t.id)] ++ [("name", .string t.name)] ++
        unlessBlank "purpose" t.purpose ++ unlessBlank "detail" t.detail ++
        unlessBlank "refURI" t.refUri ++ unlessBlank "apiName" t.apiName ++
        unlessBlank "apiVersion" t.apiVersion ++ [("input", t.input.toJson)] ++
        [("context", t.context.toJson)] ++ [("expect", t.expect.toJson)]) := by
    simp [toJson]
  rw [hmembers, visible]
  exact reads_record
    ((takes_nil setField { id := "", input := { method := "", endpoint := "" } })
      |>.member "@id" (reads_text t.id) (fun _ _ => rfl)
      |>.member "name" (reads_text t.name) (fun _ _ => rfl)
      |>.unlessBlank "purpose" t.purpose (fun _ _ => rfl) rfl
      |>.unlessBlank "detail" t.detail (fun _ _ => rfl) rfl
      |>.unlessBlank "refURI" t.refUri (fun _ _ => rfl) rfl
      |>.unlessBlank "apiName" t.apiName (fun _ _ => rfl) rfl
      |>.unlessBlank "apiVersion" t.apiVersion (fun _ _ => rfl) rfl
      |>.member "input" t.input.reads (fun _ _ => rfl)
      |>.member "context" t.context.reads (fun _ _ => rfl)
      |>.member "expect" t.expect.reads (fun _ _ => rfl))
    rfl (by decide) (by decide)

theorem TestCase.toJson_visible (t : TestCase) : t.visible.toJson = t.toJson := by
  rw [toJson, toJson, visible, Context.toJson_visible]

/-! ## Suites -/

theorem ApiSpecification.reads (a : ApiSpecification) : Reads reader (need + 1) a.toJson a :=
  reads_record
    ((takes_nil setField { name := "" })
      |>.member "name" (reads_text a.name) (fun _ _ => rfl)
      |>.member "url" (reads_text a.url) (fun _ _ => rfl)
      |>.member "version" (reads_text a.version) (fun _ _ => rfl)
      |>.member "schemaVersion" (reads_text a.schemaVersion) (fun _ _ => rfl))
    rfl (by decide) (by decide)

theorem SpecificationCases.reads (s : SpecificationCases) :
    Reads reader (need + 7) s.toJson s.visible := by
  rw [visible]
  exact reads_record
    ((takes_nil setField { specification := { name := "" } })
      |>.member "apiSpecification" s.specification.reads (fun _ _ => rfl)
      |>.member "testCases" (reads_list TestCase.reads s.testCases) (fun _ _ => rfl))
    rfl (by decide) (by decide)

theorem SpecificationCases.toJson_visible (s : SpecificationCases) :
    s.visible.toJson = s.toJson := by
  simp [toJson, visible, Function.comp_def, TestCase.toJson_visible]

theorem NamedPermission.reads (p : NamedPermission) : Reads reader (need + 2) p.toJson p :=
  reads_record
    ((takes_nil setField { name := "" })
      |>.member "name" (reads_text p.name) (fun _ _ => rfl)
      |>.member "testIds" (reads_texts p.testIds) (fun _ _ => rfl)
      |>.member "permissions" (reads_texts p.permissions) (fun _ _ => rfl)
      |>.unlessNone "permissionsExcluded" p.permissionsExcluded reads_text (fun _ _ => rfl) rfl)
    rfl (by decide) (by decide)

theorem ConsentRequirements.reads (c : ConsentRequirements) :
    Reads reader (need + 4) c.toJson c :=
  reads_record
    ((takes_nil setField { identifier := "" })
      |>.member "identifier" (reads_text c.identifier) (fun _ _ => rfl)
      |>.member "namedPermissions" (reads_items NamedPermission.reads c.namedPermissions)
        (fun _ _ => rfl))
    rfl (by decide) (by decide)

/-- A suite is read back without the handles of the contexts of its test cases. -/
theorem Suite.reads (s : Suite) : Reads reader (need + 9) s.toJson s.visible := by
  rw [visible]
  exact reads_record
    ((takes_nil setField {})
      |>.member "specCases" (reads_list SpecificationCases.reads s.specifications)
        (fun _ _ => rfl)
      |>.member "specTokens" (reads_items ConsentRequirements.reads s.consentRequirements)
        (fun _ _ => rfl))
    rfl (by decide) (by decide)

theorem Suite.toJson_visible (s : Suite) : s.visible.toJson = s.toJson := by
  simp [toJson, visible, Function.comp_def, SpecificationCases.toJson_visible]

/-! ## Token requirements -/

theorem SpecType.reads (t : SpecType) : Reads reader need (.string t.name) t :=
  ⟨scans_string t.name, fun _ _ => by cases t <;> rfl⟩

theorem TokenRequirement.reads (t : TokenRequirement) : Reads reader (need + 2) t.toJson t :=
  reads_record
    ((takes_nil setField { name := "" })
      |>.member "name" (reads_text t.name) (fun _ _ => rfl)
      |>.unlessBlank "token" t.token (fun _ _ => rfl) rfl
      |>.unlessNone "ids" t.ids reads_text (fun _ _ => rfl) rfl
      |>.unlessNone "perms" t.required reads_text (fun _ _ => rfl) rfl
      |>.unlessNone "permsx" t.excluded reads_text (fun _ _ => rfl) rfl
      |>.unlessBlank "accessToken" t.accessToken (fun _ _ => rfl) rfl
      |>.unlessBlank "consentUrl" t.consentUrl (fun _ _ => rfl) rfl
      |>.unlessBlank "consentId" t.consentId (fun _ _ => rfl) rfl
      |>.unlessBlank "consentParam" t.consentParam (fun _ _ => rfl) rfl)
    rfl (by decide) (by decide)

theorem SpecTokens.reads (s : SpecTokens) : Reads reader (need + 4) s.toJson s :=
  reads_record
    ((takes_nil setField { identifier := "", specType := .accounts, tokens := [] })
      |>.member "identifier" (reads_text s.identifier) (fun _ _ => rfl)
      |>.member "spec_type" s.specType.reads (fun _ _ => rfl)
      |>.member "tokens" (reads_items TokenRequirement.reads s.tokens) (fun _ _ => rfl))
    rfl (by decide) (by decide)

/-! ## Acquired consents -/

theorem ConsentItem.reads (i : ConsentItem) : Reads reader (need + 1) i.toJson i :=
  reads_record
    ((takes_nil setField { tokenName := "" })
      |>.member "tokenName" (reads_text i.tokenName) (fun _ _ => rfl)
      |>.unlessBlank "consentUrl" i.consentUrl (fun _ _ => rfl) rfl
      |>.unlessBlank "consentId" i.consentId (fun _ _ => rfl) rfl
      |>.member "permissions" (reads_text i.permissions) (fun _ _ => rfl)
      |>.unlessBlank "clientAccessToken" i.clientAccessToken (fun _ _ => rfl) rfl
      |>.unlessBlank "error" i.error (fun _ _ => rfl) rfl)
    rfl (by decide) (by decide)

theorem GrantToken.reads (t : GrantToken) : Reads reader (need + 1) t.toJson t :=
  reads_record
    ((takes_nil setField { accessToken := "" })
      |>.member "access_token" (reads_text t.accessToken) (fun _ _ => rfl)
      |>.member "token_type" (reads_text t.tokenType) (fun _ _ => rfl)
      |>.member "expires_in" (reads_nullable reads_uint64 nofun t.expiresIn) (fun _ _ => rfl)
      |>.member "scope" (reads_nullable reads_text nofun t.scope) (fun _ _ => rfl)
      |>.member "id_token" (reads_nullable reads_text nofun t.idToken) (fun _ _ => rfl))
    rfl (by decide) (by decide)

/-! ## Whole texts -/

/-- **Documents are read back.** The text of a suite is read as the suite without the handles of the
contexts of its test cases, which is written as the same text; the texts of the tokens of a
specification, of consent items and of granted tokens are read as what they were written from. -/
theorem documents_read_back :
    (∀ s : Suite, Json.read Suite.reader s.toJson.render = .ok s.visible ∧
      s.visible.toJson.render = s.toJson.render) ∧
    (∀ t : SpecTokens, Json.read SpecTokens.reader t.toJson.render = .ok t) ∧
    (∀ i : ConsentItem, Json.read ConsentItem.reader i.toJson.render = .ok i) ∧
    (∀ g : GrantToken, Json.read GrantToken.reader g.toJson.render = .ok g) := by
  -- Nothing is nested more deeply than what the tests of a suite expect.
  refine ⟨fun s => ⟨?_, ?_⟩, fun t => ?_, fun i => ?_, fun g => ?_⟩
  · exact s.reads.read_render (by decide : 0 + 9 ≤ Draft.depthLimit)
  · rw [s.toJson_visible]
  · exact t.reads.read_render (by decide : 0 + 4 ≤ Draft.depthLimit)
  · exact i.reads.read_render (by decide : 0 + 1 ≤ Draft.depthLimit)
  · exact g.reads.read_render (by decide : 0 + 1 ≤ Draft.depthLimit)

end Conformance
