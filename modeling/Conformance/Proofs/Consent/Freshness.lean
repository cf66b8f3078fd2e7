import Conformance.Proofs.Consent.Provenance
import Conformance.Proofs.Request.Headers

/-!
# What later steps read

A step of a consent flow that reads what an earlier step has produced is expanded twice: first with the
context that the flow begins with, as far as that has texts, and again when its request is prepared.
`play_reads`: the step reads what the earlier step of the same flow has produced, unless the starting
context has a text under that name already, which is then read in its place. So a flow only reads its
own values if the context that it is started with has none of the names; one in which a consent was
acquired before has the first of them (`sampleFlow_reads_used`).
-/

namespace Conformance

/-- Whether no text of a context holds a dollar sign. -/
def Context.isPlain (ctx : Context) : Bool :=
  ctx.values.entries.all fun e =>
    match e.2 with
    | .text s => !s.toList.contains '$'
    | _ => true

theorem Context.plain_of_isPlain {ctx : Context} (h : ctx.isPlain = true) {name s : String}
    (hs : ctx.getText name = .ok s) : '$' ∉ s.toList := by
  rw [getText_eq_ok_iff, KeyMap.get?, Option.map_eq_some_iff] at hs
  obtain ⟨e, he, hvalue⟩ := hs
  have hplain := List.all_eq_true.mp h e (List.mem_of_find?_eq_some he)
  rw [hvalue] at hplain
  simpa using hplain

/-! ## Reading what was expanded twice -/

namespace Template

/-- What a template that ends in a variable comes to in a map that is expanded as far as possible. -/
theorem expandMap_twice {early : Context} {m m' : KeyMap String} (key front name : String)
    (hfirst : expandMap early .lenient m = .ok m') (hm : m.get? key = some (front ++ "$" ++ name))
    (hfront : '$' ∉ front.toList) (hne : name ≠ "")
    (hname : ∀ c ∈ name.toList, isNameChar c = true)
    (hplain : ∀ old, early.getText name = .ok old → '$' ∉ old.toList) :
    ∃ template, m'.get? key = some template ∧ ∀ (ctx : Context) (value text : String),
      ctx.getText name = .ok value → expand ctx .strict template = .ok text →
        text = front ++ ConsentFlow.textOr early name value := by
  obtain ⟨template, hlenient, hget⟩ := KeyMap.get?_mapM hfirst hm
  refine ⟨template, hget, fun ctx value text hv hstrict => ?_⟩
  exact expand_twice hfront hne hname hplain hlenient hstrict hv

end Template

namespace Component.Providers

variable {early ctx : Context} {t : TestCase} {trial : Trial} {id value : String}

/-- Creating a consent shows the client token. -/
theorem consentCreation_reads [Idna] {names : List String}
    (hexpand : (consentCreation id names).expand early .lenient = .ok t)
    (hbegin : t.begin ctx = .ok trial)
    (hplain : ∀ old, early.getText Context.clientTokenName = .ok old → '$' ∉ old.toList)
    (hv : ctx.getText Context.clientTokenName = .ok value) :
    trial.request.headers.get? "Authorization" =
      some ("Bearer " ++ ConsentFlow.textOr early Context.clientTokenName value) := by
  have hheaders := (RequestTemplate.expand_eq_ok (TestCase.expand_eq_ok hexpand).1).headers
  obtain ⟨template, hget, hread⟩ := Template.expandMap_twice "Authorization" "Bearer "
    Context.clientTokenName hheaders rfl (by decide) (by decide) (List.all_eq_true.mp rfl) hplain
  have hprepare := (TestCase.prepare_eq_ok (TestCase.begin_ok hbegin).2).1
  obtain ⟨text, htext, -, hheader⟩ :=
    RequestTemplate.preparedHeaders_get? (RequestTemplate.prepare_headers hprepare) hget
  rw [hheader, hread _ value text (Context.getText_overlay hv) htext]

/-- The URL at which a consent is authorised is made for the consent. -/
theorem authorisation_reads [Idna] {name purpose : String} {expect : Expect}
    (hexpand : (authorisation id name purpose expect).expand early .lenient = .ok t)
    (hbegin : t.begin ctx = .ok trial)
    (hplain : ∀ old, early.getText "intent_id" = .ok old → '$' ∉ old.toList)
    (hv : ctx.getText "intent_id" = .ok value) :
    ∃ endpoint claims url, Claims.consentUrl endpoint claims = .ok url ∧
      trial.request.url = url.render ∧
      claims.get? "consentId" = some (ConsentFlow.textOr early "intent_id" value) := by
  have hclaims := (RequestTemplate.expand_eq_ok (TestCase.expand_eq_ok hexpand).1).claims
  obtain ⟨template, hget, hread⟩ := Template.expandMap_twice "consentId" "" "intent_id"
    hclaims rfl (by decide) (by decide) (List.all_eq_true.mp rfl) hplain
  obtain ⟨-, endpoint, claims, url, hmap, hurl, hrender⟩ := authorisation_begun hexpand hbegin
  obtain ⟨text, htext, hclaim⟩ := KeyMap.get?_mapM hmap hget
  rw [hread _ value text (Context.getText_overlay hv) htext, String.empty_append] at hclaim
  exact ⟨endpoint, claims, url, hurl, hrender, hclaim⟩

/-- Exchanging the code of a redirect sends the code. -/
theorem codeExchange_reads [Idna] (hexpand : (codeExchange id).expand early .lenient = .ok t)
    (hbegin : t.begin ctx = .ok trial)
    (hplain : ∀ old, early.getText "authorization_code" = .ok old → '$' ∉ old.toList)
    (hv : ctx.getText "authorization_code" = .ok value) :
    trial.request.formData.get? "code" =
      some (ConsentFlow.textOr early "authorization_code" value) := by
  have hinput := RequestTemplate.expand_eq_ok (TestCase.expand_eq_ok hexpand).1
  obtain ⟨template, hget, hread⟩ := Template.expandMap_twice "code" "" "authorization_code"
    hinput.formData rfl (by decide) (by decide) (List.all_eq_true.mp rfl) hplain
  obtain ⟨hrequest, -⟩ := TestCase.prepare_plain (by rw [hinput.generation]; rfl)
    (TestCase.begin_ok hbegin).2
  obtain ⟨text, htext, hfield⟩ :=
    KeyMap.get?_mapM (RequestTemplate.expanding_eq_ok hrequest.formData) hget
  rw [hfield, hread _ value text (Context.getText_overlay hv) htext, String.empty_append]

/-! ## Reading what has just been produced -/

variable {xs : List Exchange} {sent : List Trial} {t₁ t₂ t₃ t₄ : TestCase} {id₁ id₂ id₃ id₄ : String}
  {names : List String} {name purpose : String} {expect : Expect}

theorem token_read [Idna] (h₁ : (clientGrant id₁).expand early .lenient = .ok t₁)
    (h₂ : (consentCreation id₂ names).expand early .lenient = .ok t₂)
    (hplain : ∀ old, early.getText Context.clientTokenName = .ok old → '$' ∉ old.toList)
    (h : Walk.Passes early [t₁] sent xs ctx) (hbegin : t₂.begin ctx = .ok trial) :
    ∃ token, xs[0]?.bind (·.response.textAt? "access_token") = some token ∧
      trial.request.headers.get? "Authorization" =
        some ("Bearer " ++ ConsentFlow.textOr early Context.clientTokenName token) := by
  obtain _ | ⟨p₁, _ | _⟩ := h
  obtain ⟨assertion, token, htoken, rfl⟩ := clientGrant_passes h₁ p₁
  exact ⟨token, htoken,
    consentCreation_reads h₂ hbegin hplain (Context.getText_putText_self ..)⟩

theorem intent_read [Idna] {earlier : List String}
    (h₂ : (consentCreation id₂ names).expand early .lenient = .ok t₂)
    (hnames : List.Forall₂ (fun name name' => Template.expand early .lenient name = .ok name') names
      (earlier ++ ["intent_id"]))
    (h₃ : (authorisation id₃ name purpose expect).expand early .lenient = .ok t₃)
    (hplain : ∀ old, early.getText "intent_id" = .ok old → '$' ∉ old.toList)
    (h : Walk.Passes early [t₁, t₂] sent xs ctx) (hbegin : t₃.begin ctx = .ok trial) :
    ∃ intent, xs[1]?.bind (·.response.textAt? "Data.ConsentId") = some intent ∧
      ∃ endpoint claims url, Claims.consentUrl endpoint claims = .ok url ∧
        trial.request.url = url.render ∧
        claims.get? "consentId" = some (ConsentFlow.textOr early "intent_id" intent) := by
  obtain _ | ⟨-, _ | ⟨p₂, _ | _⟩⟩ := h
  obtain ⟨intent, hintent, rfl⟩ := consentCreation_passes h₂ hnames (by simp) p₂
  refine ⟨intent, hintent, authorisation_reads h₃ hbegin hplain ?_⟩
  rw [List.foldl_append]
  exact Context.getText_putText_self ..

theorem code_read [Idna]
    (h₃ : (authorisation id₃ name purpose expect).expand early .lenient = .ok t₃)
    (hexpect : expect.extractions = [keepCode])
    (h₄ : (codeExchange id₄).expand early .lenient = .ok t₄)
    (hplain : ∀ old, early.getText "authorization_code" = .ok old → '$' ∉ old.toList)
    (h : Walk.Passes early [t₁, t₂, t₃] sent xs ctx) (hbegin : t₄.begin ctx = .ok trial) :
    ∃ code, xs[2]?.bind (fun x => redirectCode? x.response) = some code ∧
      trial.request.formData.get? "code" =
        some (ConsentFlow.textOr early "authorization_code" code) := by
  obtain _ | ⟨-, _ | ⟨-, _ | ⟨p₃, _ | _⟩⟩⟩ := h
  have hextract := authorisation_passes h₃ (by rw [hexpect]; decide) p₃
  rw [hexpect] at hextract
  obtain ⟨code, hcode, rfl⟩ := extract_redirect hextract
  exact ⟨code, hcode, codeExchange_reads h₄ hbegin hplain (Context.getText_putText_self ..)⟩

end Component.Providers

namespace ConsentFlow

/-! ## Flows -/

/-- What the steps of a flow read, when the flow was started with a context. -/
structure Reads [Idna] (ctx : Context) (c : Walk.Course) : Prop where
  /-- The second request shows the token of the first answer. -/
  token : ∀ trial, c.sent[1]? = some trial → ∃ token, c.textAt? 0 "access_token" = some token ∧
    trial.request.headers.get? "Authorization" =
      some ("Bearer " ++ textOr ctx Context.clientTokenName token)
  /-- The third request is for the consent of the second answer. -/
  intent : ∀ trial, c.sent[2]? = some trial →
    ∃ intent, c.textAt? 1 "Data.ConsentId" = some intent ∧
      ∃ endpoint claims url, Claims.consentUrl endpoint claims = .ok url ∧
        trial.request.url = url.render ∧
        claims.get? "consentId" = some (textOr ctx "intent_id" intent)
  /-- The fourth request sends the code of the third answer. -/
  code : ∀ trial, c.sent[3]? = some trial →
    ∃ code, (c.answer? 2).bind (fun x => Component.Providers.redirectCode? x.response) = some code ∧
      trial.request.formData.get? "code" = some (textOr ctx "authorization_code" code)

/-- The names under which steps produce what later steps read. -/
def producedNames : List String := [Context.clientTokenName, "intent_id", "authorization_code"]

open Component.Providers in
/-- What the steps of either component read: the first three are of one kind in both, and what follows
exchanges the code of a redirect. -/
theorem reads_of_stands [Idna] {early : Context} {c : Walk.Course} {t₁ t₂ t₃ : TestCase}
    {rest : List TestCase} {id₁ id₂ id₃ name purpose : String} {names : List String}
    {expect : Expect} (earlier : List String) (h₁ : (clientGrant id₁).expand early .lenient = .ok t₁)
    (h₂ : (consentCreation id₂ names).expand early .lenient = .ok t₂)
    (hnames : List.Forall₂ (fun name name' => Template.expand early .lenient name = .ok name') names
      (earlier ++ ["intent_id"]))
    (h₃ : (authorisation id₃ name purpose expect).expand early .lenient = .ok t₃)
    (h₄ : ∀ t ∈ rest.head?, expect.extractions = [keepCode] ∧
      ∃ id, (codeExchange id).expand early .lenient = .ok t)
    (hplain : ∀ name ∈ producedNames, ∀ old, early.getText name = .ok old → '$' ∉ old.toList)
    (hstands : c.Stands early (t₁ :: t₂ :: t₃ :: rest)) (hhalts : c.walk.haltsOnFailure = true) :
    Reads early c := by
  refine ⟨?_, ?_, ?_⟩
  · intro trial hk
    obtain ⟨xs, current, _, hxs, hpasses, ⟨⟩, hbegin⟩ := hstands.passed_before hhalts hk
    obtain ⟨token, htoken, hheader⟩ :=
      token_read h₁ h₂ (hplain _ (by simp [producedNames])) hpasses hbegin
    exact ⟨token, Walk.Course.answer?_bind_of_prefix (hxs ▸ List.take_prefix ..) htoken, hheader⟩
  · intro trial hk
    obtain ⟨xs, current, _, hxs, hpasses, ⟨⟩, hbegin⟩ := hstands.passed_before hhalts hk
    obtain ⟨intent, hintent, hurl⟩ :=
      intent_read h₂ hnames h₃ (hplain _ (by simp [producedNames])) hpasses hbegin
    exact ⟨intent, Walk.Course.answer?_bind_of_prefix (hxs ▸ List.take_prefix ..) hintent, hurl⟩
  · intro trial hk
    obtain ⟨xs, current, t₄, hxs, hpasses, ht₄, hbegin⟩ := hstands.passed_before hhalts hk
    obtain ⟨hexpect, id₄, h₄⟩ := h₄ t₄ (by rw [List.head?_eq_getElem?]; exact ht₄)
    obtain ⟨code, hcode, hfield⟩ :=
      code_read h₃ hexpect h₄ (hplain _ (by simp [producedNames])) hpasses hbegin
    exact ⟨code, Walk.Course.answer?_bind_of_prefix (hxs ▸ List.take_prefix ..) hcode, hfield⟩

/-- A name that a flow does not set of itself holds what the starting context holds. -/
theorem getText_context {d : RunDefinition} {item : ConsentItem} {ctx : Context} {key : String}
    (hkey : key ∉ [Context.signingKeyName, Context.consentIdName, Context.tokenName,
      Context.permissionListName]) : (context d item ctx).getText key = ctx.getText key := by
  simp only [List.mem_cons, List.not_mem_nil, or_false, not_or] at hkey
  obtain ⟨hsigning, hconsent, htoken, hpermissions⟩ := hkey
  have hprivate : (d.privateContext ctx).get key = ctx.get key := by
    refine Context.get_eq_of_get?_eq ?_
    unfold RunDefinition.privateContext
    cases d.signingKey with
    | none => exact (KeyMap.get?_overlay ..).trans (Option.or_none ..)
    | some k =>
        have hseeded : (Context.empty.put Context.signingKeyName
            (.handle (.signingKey k))).values.get? key = none :=
          KeyMap.get?_put_of_ne _ (Ne.symm hsigning) _
        refine (KeyMap.get?_overlay ..).trans ?_
        dsimp only
        rw [hseeded, Option.or_none]
  rw [context, Context.getText_putText, if_neg (Ne.symm hpermissions), Context.getText_putText,
    if_neg (Ne.symm htoken), Context.getText_putText, if_neg (Ne.symm hconsent)]
  exact Context.getText_congr hprivate

namespace Course

open Component.Providers

/-- **What later steps read.** Let a flow be started with a context whose texts under the produced
names hold no dollar sign. Whatever the answers and whenever it is asked to stop, each request that is
sent reads the text of the starting context under such a name if that has one, and else what the
earlier step of the flow has produced. -/
theorem play_reads [Idna] {runner runner' : Runner} {d : RunDefinition} {item : ConsentItem}
    {ctx : Context} {acquisition : Acquisition} {f : ConsentFlow}
    (hbegin : ConsentFlow.begin runner d item ctx acquisition = .ok (f, runner'))
    (hplain : ∀ name ∈ producedNames, ∀ old, ctx.getText name = .ok old → '$' ∉ old.toList)
    (moves : List Walk.Move) : Reads ctx ((start f).play moves).course := by
  obtain ⟨-, hctx, htests⟩ := Acquisition.begin_eq_ok hbegin
  have hstands := (start_stands f).play moves
  generalize (start f).play moves = c at hstands ⊢
  have hsame : ∀ name ∈ producedNames, (context d item ctx).getText name = ctx.getText name := by
    intro name hname
    refine getText_context ?_
    revert name
    decide
  have hearly : ∀ name ∈ producedNames, ∀ old,
      (context d item ctx).getText name = .ok old → '$' ∉ old.toList := by
    intro name hname old hold
    rw [hsame name hname] at hold
    exact hplain name hname old hold
  have hintent : Template.expand (context d item ctx) .lenient "intent_id" = .ok "intent_id" :=
    Template.expand_of_no_dollar _ .lenient (by decide)
  have hreads : Reads (context d item ctx) c.course := by
    have hwalk := hstands.walk
    rw [hctx] at hwalk
    generalize f.component.tests = tests at htests hwalk
    cases acquisition with
    | psu =>
        obtain _ | ⟨h₁, _ | ⟨h₂, _ | ⟨h₃, _ | _⟩⟩⟩ := Component.expandTests_eq_ok htests
        have hconsent := expand_consentId (getText_context_consentId d item ctx)
        exact reads_of_stands [item.tokenName] h₁ h₂
          (.cons hconsent (.cons hintent .nil)) h₃ (by simp) hearly hwalk hstands.halts
    | headless =>
        obtain _ | ⟨h₁, _ | ⟨h₂, _ | ⟨h₃, _ | ⟨h₄, _ | _⟩⟩⟩⟩ := Component.expandTests_eq_ok htests
        refine reads_of_stands [] h₁ h₂ (.cons hintent .nil) h₃ ?_ hearly hwalk
          hstands.halts
        rintro t ⟨⟩
        exact ⟨rfl, _, h₄⟩
  have htext : ∀ name ∈ producedNames, ∀ other,
      textOr (context d item ctx) name other = textOr ctx name other := by
    intro name hname other
    rw [textOr, textOr, hsame name hname]
  refine ⟨fun trial hk => ?_, fun trial hk => ?_, fun trial hk => ?_⟩
  · rw [← funext (htext _ (by simp [producedNames]))]
    exact hreads.token trial hk
  · rw [← funext (htext _ (by simp [producedNames]))]
    exact hreads.intent trial hk
  · rw [← funext (htext _ (by simp [producedNames]))]
    exact hreads.code trial hk

/-- The flow that begins with the values of an earlier acquisition. -/
theorem sampleFlow_reads :
    ∃ runner, ConsentFlow.begin Runner.forConsent {} sampleNew usedContext .psu =
        .ok (sampleFlow, runner) ∧
      (∀ name ∈ producedNames, ∀ old, usedContext.getText name = .ok old → '$' ∉ old.toList) ∧
      Reads usedContext ((start sampleFlow).play (sampleMoves granting)).course := by
  obtain ⟨runner, hbegin⟩ := begin_sampleFlow
  have hplain : ∀ name ∈ producedNames, ∀ old, usedContext.getText name = .ok old →
      '$' ∉ old.toList := fun name _ old => Context.plain_of_isPlain (by decide +kernel)
  exact ⟨runner, hbegin, hplain, play_reads hbegin hplain (sampleMoves granting)⟩

/-- A later step does not always read what its own flow has produced: the second request may show
another token than that of the first answer. -/
theorem sampleFlow_reads_used :
    ¬ ∀ (runner runner' : Runner) (d : RunDefinition) (item : ConsentItem) (ctx : Context)
        (acquisition : Acquisition) (f : ConsentFlow) (moves : List Walk.Move) (trial : Trial)
        (token : String), ctx.isPlain = true →
      ConsentFlow.begin runner d item ctx acquisition = .ok (f, runner') →
      ((start f).play moves).course.textAt? 0 "access_token" = some token →
      RequestTemplate.breaksLine token = false →
      ((start f).play moves).course.sent[1]? = some trial →
      trial.request.headers.get? "Authorization" = some ("Bearer " ++ token) := by
  intro hclaim
  obtain ⟨-, hheader, htoken⟩ := sampleFlow_course
  obtain ⟨trial, hsent, hauthorization⟩ := Option.bind_eq_some_iff.mp hheader
  obtain ⟨runner, hbegin⟩ := begin_sampleFlow
  have hown := hclaim _ _ _ _ _ _ _ _ trial "t-1" (by decide +kernel) hbegin htoken (by decide) hsent
  rw [hauthorization] at hown
  exact absurd hown (by decide)

end Course

end ConsentFlow

end Conformance
