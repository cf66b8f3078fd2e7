import Conformance.Proofs.Expansion.Copies
import Conformance.Proofs.Request.Agreement
import Mathlib.Data.List.TakeWhile

/-!
# Requests that were expanded before

A request may be expanded on its own and prepared later, or be prepared at once. The templates come to
the same both ways (`alike_expanded`), but preparing looks at the method and the endpoint before it
expands anything: the method is taken as it is written, and an endpoint counts as empty when its
template is. `prepare_expanded_iff` says exactly when the two ways agree nevertheless.
`verbRequest` and `pathRequest` are two requests for which they do not (`expanded_differs`).
-/

namespace Conformance

/-! ## Blank texts -/

namespace Text

theorem mem_dropWhile {p : Char → Bool} {c : Char} (hc : p c = false) {cs : List Char}
    (h : c ∈ cs) : c ∈ cs.dropWhile p := by
  rw [← List.takeWhile_append_dropWhile (p := p) (l := cs), List.mem_append] at h
  rcases h with hfront | hback
  · rw [List.mem_takeWhile_imp hfront] at hc
    cases hc
  · exact hback

/-- Trimming keeps every character that is not blank. -/
theorem mem_trim {s : String} {c : Char} (hc : isBlank c = false) (h : c ∈ s.toList) :
    c ∈ (trim s).toList := by
  rw [trim, String.toList_ofList, trimBlanks, List.mem_reverse]
  exact mem_dropWhile hc (List.mem_reverse.mpr (mem_dropWhile hc h))

theorem dollar_mem_asciiUppercase {s : String} (h : '$' ∈ s.toList) :
    '$' ∈ (asciiUppercase s).toList := by
  rw [asciiUppercase, String.toList_ofList]
  exact List.mem_map.mpr ⟨'$', h, by decide⟩

end Text

/-! ## Templates without variables -/

namespace Template

theorem dollar_mem_of_names {s : String} (h : names s ≠ []) : '$' ∈ s.toList := by
  by_contra hno
  apply h
  rw [names_eq, pieces_of_no_dollar hno, List.filterMap_map]
  exact List.filterMap_eq_nil_iff.mpr fun _ _ => rfl

/-- A blank template has no variables. -/
theorem names_of_blank {s : String} (h : Text.trim s = "") : names s = [] := by
  by_contra hne
  have hmem : '$' ∈ (Text.trim s).toList :=
    Text.mem_trim (by decide) (dollar_mem_of_names hne)
  rw [h] at hmem
  cases hmem

/-- What a template came to comes to the same again when no variable is left in it. -/
theorem expand_filledText {ctx : Context} {s : String} (hs : expand ctx .strict s = .ok (filledText ctx s))
    (h : names (filledText ctx s) = []) :
    expand ctx .strict (filledText ctx s) = expand ctx .strict s := by
  rw [expand_of_names h, hs]

theorem alikeMaps_filled {ctx : Context} {m : KeyMap String}
    (h : ∀ s ∈ m.vals, expand ctx .strict (filledText ctx s) = expand ctx .strict s) :
    AlikeMaps ctx ctx (m.map (filledText ctx)) m := by
  unfold AlikeMaps KeyMap.map
  rw [List.forall₂_map_left_iff, List.forall₂_same]
  exact fun e he => ⟨rfl, h _ (List.mem_map_of_mem he)⟩

end Template

namespace RequestTemplate

open Template (names filledText)

variable {r r' : RequestTemplate} {ctx ctx' : Context}

/-! ## What is looked at before anything is expanded -/

/-- Whether an error concerns the method, or an endpoint that is not there. -/
def isEarly : RequestError → Bool
  | .emptyMethod | .emptyEndpoint | .invalidMethod _ => true
  | _ => false

theorem isEarly_of_preparedMethod {e : RequestError} (h : r.preparedMethod = .error e) :
    isEarly e = true := by
  unfold preparedMethod at h
  split at h
  · cases h
    rfl
  · split at h
    · cases h
      rfl
    · dsimp only at h
      split at h <;> cases h
      rfl

/-- A method that was found good is the trimmed one in capitals. -/
theorem preparedMethod_eq_ok {m : String} (h : r.preparedMethod = .ok m) :
    m = Text.asciiUppercase (Text.trim r.method) := by
  unfold preparedMethod at h
  split at h
  · cases h
  · split at h
    · cases h
    · dsimp only at h
      split at h
      · exact (Except.ok.inj h).symm
      · cases h

/-- A template is no method. -/
theorem preparedMethod_of_names (h : names r.method ≠ []) :
    r.preparedMethod = if Text.trim r.endpoint = "" then .error .emptyEndpoint
      else .error (.invalidMethod r.method) := by
  have hdollar : '$' ∈ (Text.trim r.method).toList :=
    Text.mem_trim (by decide) (Template.dollar_mem_of_names h)
  have hsome : Text.trim r.method ≠ "" := by
    intro hblank
    rw [hblank] at hdollar
    cases hdollar
  have hmethod : methods.contains (Text.asciiUppercase (Text.trim r.method)) = false := by
    rw [← Bool.not_eq_true, List.contains_iff_mem]
    intro hmem
    have hplain : ∀ m ∈ methods, '$' ∉ m.toList := by decide
    exact hplain _ hmem (Text.dollar_mem_asciiUppercase hdollar)
  unfold preparedMethod
  rw [if_neg hsome]
  dsimp only
  rw [hmethod]
  rfl

/-! ## What is found out later -/

/-- A computation that may fail, but not for the method or for want of an endpoint. -/
def FailsLate {α : Type} (x : Except RequestError α) : Prop :=
  ∀ e, x = .error e → isEarly e = false

theorem FailsLate.bind {α β : Type} {x : Except RequestError α} {f : α → Except RequestError β}
    (hx : FailsLate x) (hf : ∀ a, FailsLate (f a)) : FailsLate (x >>= f) := by
  intro e he
  rcases Except.bind_eq_error_iff.mp he with hfirst | ⟨a, -, hsecond⟩
  · exact hx e hfirst
  · exact hf a e hsecond

theorem failsLate_ok {α : Type} (a : α) : FailsLate (.ok a : Except RequestError α) := nofun

theorem failsLate_error {α : Type} {e : RequestError} (h : isEarly e = false) :
    FailsLate (.error e : Except RequestError α) := by
  intro e' he'
  cases he'
  exact h

theorem failsLate_expanding {α : Type} (x : Except ExpandError α) : FailsLate (expanding x) := by
  cases x with
  | ok a => exact failsLate_ok a
  | error e => exact failsLate_error rfl

theorem failsLate_baseUrl (r : RequestTemplate) (ctx : Context) : FailsLate (r.baseUrl ctx) := by
  refine (failsLate_expanding _).bind fun endpoint => ?_
  split
  · exact failsLate_ok _
  · split
    · exact failsLate_ok _
    · exact failsLate_error rfl

theorem failsLate_withParameters [Idna] (ctx : Context) (url : String)
    (parameters : KeyMap String) : FailsLate (withParameters ctx url parameters) := by
  unfold withParameters
  split
  · exact failsLate_ok _
  · split
    · exact failsLate_error rfl
    · exact (failsLate_expanding _).bind fun _ => failsLate_ok _

theorem failsLate_preparedHeaders (ctx : Context) (headers : KeyMap String) :
    FailsLate (preparedHeaders ctx headers) := by
  intro e he
  obtain ⟨entry, -, hfailed⟩ := KeyMap.mapM_eq_error he
  split at hfailed
  · cases hfailed
    rfl
  · split at hfailed <;> cases hfailed
    rfl

theorem failsLate_applyStrategy [Idna] (strategy : ClaimStrategy) (claims : KeyMap String)
    (ctx : Context)
    (request : PreparedRequest) : FailsLate (applyStrategy strategy claims ctx request) := by
  unfold applyStrategy
  cases strategy with
  | consentUrl =>
      dsimp only
      split
      · exact failsLate_error rfl
      · exact failsLate_ok _
  | jwtBearer =>
      dsimp only
      split
      · exact failsLate_error rfl
      · split
        · exact failsLate_error rfl
        · exact failsLate_ok _

/-- Preparing fails early exactly as the look at the method and the endpoint does. -/
theorem prepare_eq_early_iff [Idna] (r : RequestTemplate) (ctx : Context) {e : RequestError}
    (he : isEarly e = true) :
    r.prepare ctx = .error e ↔ r.preparedMethod = .error e := by
  cases hmethod : r.preparedMethod with
  | error x =>
      have hprepare : r.prepare ctx = .error x := by
        unfold prepare preparePlain
        rw [hmethod]
        rfl
      rw [hprepare, Except.error.injEq, Except.error.injEq]
  | ok m =>
      have hlate : FailsLate (r.prepare ctx) := by
        unfold prepare preparePlain
        rw [hmethod]
        refine FailsLate.bind ?_ fun plain => ?_
        · refine (failsLate_ok m).bind fun method => ?_
          refine (failsLate_baseUrl r ctx).bind fun url => ?_
          refine (failsLate_withParameters ctx url _).bind fun url' => ?_
          refine (failsLate_preparedHeaders ctx _).bind fun headers => ?_
          refine (failsLate_expanding _).bind fun form => ?_
          exact (failsLate_expanding _).bind fun body => failsLate_ok _
        · split
          · exact failsLate_ok _
          · split
            · exact failsLate_error rfl
            · exact (failsLate_expanding _).bind fun claims =>
                failsLate_applyStrategy _ claims ctx plain
      refine iff_of_false (fun hprepare => ?_) nofun
      rw [hlate e hprepare] at he
      cases he

/-- Requests whose other fields come to the same are prepared alike exactly if they are alike in what
is looked at before. -/
theorem prepare_eq_prepare_iff [Idna] (h : Alike ctx ctx' r r')
    (hok : ∀ m m', r.preparedMethod = .ok m → r'.preparedMethod = .ok m' → m = m') :
    r.prepare ctx = r'.prepare ctx' ↔ r.preparedMethod = r'.preparedMethod := by
  refine ⟨fun hsame => ?_, fun hmethod => prepare_congr hmethod h⟩
  cases hmethod : r.preparedMethod with
  | error e =>
      have he := isEarly_of_preparedMethod hmethod
      rw [← prepare_eq_early_iff r ctx he, hsame, prepare_eq_early_iff r' ctx' he] at hmethod
      exact hmethod.symm
  | ok m =>
      cases hmethod' : r'.preparedMethod with
      | error e =>
          have he := isEarly_of_preparedMethod hmethod'
          rw [← prepare_eq_early_iff r' ctx' he, ← hsame, prepare_eq_early_iff r ctx he, hmethod]
            at hmethod'
          cases hmethod'
      | ok m' => rw [hok m m' hmethod hmethod']

/-! ## Expanding first -/

theorem texts_mapTexts (f : String → String) (r : RequestTemplate) :
    (r.mapTexts f).texts = r.texts.map f := by
  cases hbody : r.bodyData <;> simp [texts, mapTexts, KeyMap.vals_map, hbody]

/-- What a request is expanded to in advance. -/
theorem expand_strict_eq_ok (h : r.expand ctx .strict = .ok r') :
    r' = r.mapTexts (filledText ctx) ∧
      ∀ s ∈ r.texts, Template.expand ctx .strict s = .ok (filledText ctx s) := by
  obtain rfl := r.yields_expand.eq_of_ok h
  refine ⟨rfl, fun s hs => ?_⟩
  have hall := r.yields_expand.strict_ok_iff.mp h
  exact (Template.yields_expand s).strict_ok_iff.mpr fun name hname =>
    hall name (List.mem_flatMap.mpr ⟨s, hs, hname⟩)

/-- Where no variable is left, the fields of a request that was expanded in advance come to the same
as those of the request itself. -/
theorem alike_expanded (h : r.expand ctx .strict = .ok r') (hplain : ∀ s ∈ r'.texts, names s = []) :
    Alike ctx ctx r' r := by
  obtain ⟨rfl, hexpand⟩ := expand_strict_eq_ok h
  have hagain : ∀ s ∈ r.texts,
      Template.expand ctx .strict (filledText ctx s) = Template.expand ctx .strict s := by
    intro s hs
    refine Template.expand_filledText (hexpand s hs) (hplain _ ?_)
    rw [texts_mapTexts]
    exact List.mem_map_of_mem hs
  exact {
    endpoint := hagain _ (by simp [texts])
    headers := Template.alikeMaps_filled fun s hs => hagain s (by simp [texts, hs])
    queryParameters := Template.alikeMaps_filled fun s hs => hagain s (by simp [texts, hs])
    formData := Template.alikeMaps_filled fun s hs => hagain s (by simp [texts, hs])
    bodyData := by
      cases hbody : r.bodyData with
      | none => simp only [mapTexts, hbody, Option.map_none]
      | some s =>
          simp only [mapTexts, hbody, Option.map_some, Template.expandOption]
          rw [hagain s (by simp [texts, hbody])]
    claims := Template.alikeMaps_filled fun s hs => hagain s (by simp [texts, hs])
    generation := rfl
    baseUrl := rfl
    signingKey := rfl }

theorem method_of_expand (h : r.expand ctx .strict = .ok r') (hnames : names r.method = []) :
    r'.method = r.method := by
  rw [(expand_strict_eq_ok h).1]
  exact Template.filledText_of_names hnames

theorem endpoint_of_expand (h : r.expand ctx .strict = .ok r') (hblank : Text.trim r.endpoint = "") :
    r'.endpoint = r.endpoint := by
  rw [(expand_strict_eq_ok h).1]
  exact Template.filledText_of_names (Template.names_of_blank hblank)

/-- A method that is no template is looked at alike, and so is the endpoint unless it has become
blank. -/
theorem preparedMethod_expanded_iff (h : r.expand ctx .strict = .ok r') (hnames : names r.method = []) :
    r'.preparedMethod = r.preparedMethod ↔
      Text.trim r.method = "" ∨ Text.trim r.endpoint = "" ∨ Text.trim r'.endpoint ≠ "" := by
  have hmethod := method_of_expand h hnames
  by_cases hblank : Text.trim r.method = ""
  · simp [preparedMethod, hmethod, hblank]
  by_cases hendpoint : Text.trim r.endpoint = ""
  · simp [preparedMethod, hmethod, endpoint_of_expand h hendpoint, hendpoint]
  by_cases hendpoint' : Text.trim r'.endpoint = ""
  · refine iff_of_false (fun hsame => ?_) (by simp [hblank, hendpoint, hendpoint'])
    unfold preparedMethod at hsame
    rw [hmethod, if_neg hblank, if_pos hendpoint', if_neg hblank, if_neg hendpoint] at hsame
    dsimp only at hsame
    split at hsame <;> cases hsame
  · simp [preparedMethod, hmethod, hblank, hendpoint, hendpoint']

/-- A method that is a template is refused as it is written. -/
theorem preparedMethod_template_iff (h : r.expand ctx .strict = .ok r')
    (hplain : names r'.method = []) (hnames : names r.method ≠ []) :
    r'.preparedMethod = r.preparedMethod ↔
      Text.trim r.endpoint = "" ∧ Text.trim r'.method ≠ "" := by
  rw [preparedMethod_of_names hnames]
  by_cases hendpoint : Text.trim r.endpoint = ""
  · by_cases hblank : Text.trim r'.method = "" <;>
      simp [preparedMethod, endpoint_of_expand h hendpoint, hendpoint, hblank]
  · refine iff_of_false (fun hsame => ?_) fun hboth => hendpoint hboth.1
    rw [if_neg hendpoint] at hsame
    unfold preparedMethod at hsame
    split at hsame
    · cases hsame
    · split at hsame
      · cases hsame
      · dsimp only at hsame
        split at hsame
        · cases hsame
        · have hmethod : r'.method = r.method := by
            injection hsame with hinvalid
            injection hinvalid
          rw [hmethod] at hplain
          exact hnames hplain

/-- **Expanding first.** A request that was expanded in advance, with no variable left, is prepared
with the same outcome as the request itself exactly in these cases. Where the method is no template:
if the endpoint has not become blank, or if the method or the endpoint was blank from the start. Where
the method is a template, which preparing refuses: if the endpoint was blank from the start, and the
method has not become blank. Assertions are compared without what differs from one signing to the
next. -/
theorem prepare_expanded_iff [Idna] (h : r.expand ctx .strict = .ok r')
    (hplain : ∀ s ∈ r'.texts, names s = []) :
    (names r.method = [] →
        (r'.prepare ctx = r.prepare ctx ↔
          Text.trim r.method = "" ∨ Text.trim r.endpoint = "" ∨ Text.trim r'.endpoint ≠ "")) ∧
      (names r.method ≠ [] →
        (r'.prepare ctx = r.prepare ctx ↔
          Text.trim r.endpoint = "" ∧ Text.trim r'.method ≠ "")) := by
  have hmethod : names r'.method = [] := hplain _ (by simp [texts])
  have hearly : r'.prepare ctx = r.prepare ctx ↔ r'.preparedMethod = r.preparedMethod := by
    apply prepare_eq_prepare_iff (alike_expanded h hplain)
    intro m m' hm hm'
    have hnames : names r.method = [] := by
      by_contra hne
      rw [preparedMethod_of_names hne] at hm'
      split at hm' <;> cases hm'
    rw [preparedMethod_eq_ok hm, preparedMethod_eq_ok hm', method_of_expand h hnames]
  rw [hearly]
  exact ⟨preparedMethod_expanded_iff h, preparedMethod_template_iff h hmethod⟩

/-! ## Three requests -/

/-- The values of a client. -/
def clientValues : Context :=
  .ofList [("baseurl", .text "https://aspsp.example"), ("verb", .text "GET"),
    ("path", .text ""), ("client_access_token", .text "at-1")]

/-- A request with a variable in a header. -/
def accountsRequest : RequestTemplate where
  method := "GET"
  endpoint := "/accounts"
  headers := .ofList [("Authorization", "Bearer $client_access_token")]

/-- The same request, expanded. -/
def accountsExpanded : RequestTemplate :=
  { accountsRequest with headers := .ofList [("Authorization", "Bearer at-1")] }

/-- It is prepared alike when it was expanded before. -/
theorem accountsRequest_expanded :
    accountsRequest.expand clientValues .strict = .ok accountsExpanded ∧
      (∀ s ∈ accountsExpanded.texts, names s = []) ∧ names accountsRequest.method = [] ∧
      Text.trim accountsExpanded.endpoint ≠ "" ∧
      accountsExpanded.prepare clientValues = accountsRequest.prepare clientValues := by
  have hexpand : accountsRequest.expand clientValues .strict = .ok accountsExpanded := by decide
  have hplain : ∀ s ∈ accountsExpanded.texts, names s = [] := by decide
  have hendpoint : Text.trim accountsExpanded.endpoint ≠ "" := by decide
  exact ⟨hexpand, hplain, by decide, hendpoint,
    ((prepare_expanded_iff hexpand hplain).1 (by decide)).mpr (.inr (.inr hendpoint))⟩

/-- A request whose method is a template. -/
def verbRequest : RequestTemplate where
  method := "$verb"
  endpoint := "https://aspsp.example/accounts"

/-- The same request, expanded. -/
def verbExpanded : RequestTemplate := { verbRequest with method := "GET" }

/-- A request whose endpoint is a template that comes to nothing. -/
def pathRequest : RequestTemplate where
  method := "GET"
  endpoint := "$path"

/-- The same request, expanded. -/
def pathExpanded : RequestTemplate := { pathRequest with endpoint := "" }

/-- Both can be expanded with no variable left, and neither is then prepared like the request itself:
the first becomes a request, while its template is refused for its method; the second is refused for
its endpoint, while its template becomes a request to the base URL. -/
theorem expanded_differs :
    (verbRequest.expand clientValues .strict = .ok verbExpanded ∧
        (∀ s ∈ verbExpanded.texts, names s = []) ∧
        (verbExpanded.prepare clientValues).map (·.method) = .ok "GET" ∧
        verbRequest.prepare clientValues = .error (.invalidMethod "$verb") ∧
        verbExpanded.prepare clientValues ≠ verbRequest.prepare clientValues) ∧
      pathRequest.expand clientValues .strict = .ok pathExpanded ∧
        (∀ s ∈ pathExpanded.texts, names s = []) ∧
        pathExpanded.prepare clientValues = .error .emptyEndpoint ∧
        (pathRequest.prepare clientValues).map (·.url) = .ok "https://aspsp.example" ∧
        pathExpanded.prepare clientValues ≠ pathRequest.prepare clientValues := by
  decide +kernel

end RequestTemplate

end Conformance
