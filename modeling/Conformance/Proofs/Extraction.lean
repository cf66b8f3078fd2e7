import Conformance.Component.Providers
import Conformance.Expect.Validate

/-!
# What extractions leave in a context

Extractions that all find a value write one text each, in their order (`Expect.extract_cons`). The rules
of the consent providers are of two kinds: `extract_keepPath` is about rules that keep the text at one
path of the body under several names, `extract_redirect` about the code of a redirect.
-/

namespace Conformance

/-- The text at a path of the body, if the body is a JSON value that has something there. -/
def Response.textAt? (r : Response) (path : String) : Option String :=
  (r.json?.bind (·.lookup path)).map Json.asText

namespace Expect

variable {response : Response} {body : Option Json} {ctx next : Context}

/-- The first of several extractions that all find a value writes what its rule looks at, and the
others see that. -/
theorem extract_cons {r : MatchRule} {rest : List MatchRule} (hname : r.contextName ≠ "")
    (h : extract response body (r :: rest) ctx = ([], next)) :
    ∃ value, r.check response body ctx = .ok value ∧
      extract response body rest (ctx.putText r.contextName value) = ([], next) := by
  unfold extract at h
  rw [if_neg hname] at h
  split at h
  next value hvalue => exact ⟨value, hvalue, h⟩
  · cases h

end Expect

namespace Component.Providers

variable {response : Response} {ctx next : Context}

/-! ## Texts at a path -/

/-- The rule that keeps the text at a path looks at that text, whatever the context. -/
theorem keepPath_check {name path value : String} (hpath : path ≠ "")
    (h : (keepPath name path).check response response.json? ctx = .ok value) :
    response.textAt? path = some value := by
  have hkind : (keepPath name path).kind = .jsonPresent := by
    simp [keepPath, MatchRule.kind, hpath]
  have hbody : (keepPath name path).bodyValue response.json? = .ok value := by
    rwa [MatchRule.check, hkind] at h
  unfold MatchRule.bodyValue at hbody
  unfold Response.textAt?
  split at hbody
  next v hv =>
    cases hbody
    have hlookup : response.json?.bind (·.lookup path) = some v := hv
    rw [hlookup]
    rfl
  · cases hbody

/-- Keep a text under a name, unless that is empty. -/
def keepUnder (value : String) (ctx : Context) (name : String) : Context :=
  if name = "" then ctx else ctx.putText name value

theorem keepUnder_eq {name : String} (h : name ≠ "") (value : String) (ctx : Context) :
    keepUnder value ctx name = ctx.putText name value :=
  if_neg h

/-- Rules that keep the text at one path set their names to that text, and there is one if any of them
has a name. -/
theorem extract_keepPath {names : List String} {path : String} (hpath : path ≠ "")
    (h : Expect.extract response response.json? (names.map fun name => keepPath name path) ctx =
      ([], next)) :
    (∀ value, response.textAt? path = some value → next = names.foldl (keepUnder value) ctx) ∧
      ((∃ name ∈ names, name ≠ "") → ∃ value, response.textAt? path = some value) := by
  induction names generalizing ctx with
  | nil =>
      cases h
      exact ⟨fun _ _ => rfl, by simp⟩
  | cons name rest ih =>
      by_cases hname : name = ""
      · subst hname
        obtain ⟨hkept, hfound⟩ := ih h
        exact ⟨hkept, fun hnames => hfound (by simpa using hnames)⟩
      · obtain ⟨found, hcheck, h⟩ := Expect.extract_cons (r := keepPath name path) hname h
        have hvalue := keepPath_check hpath hcheck
        refine ⟨fun value htext => ?_, fun _ => ⟨found, hvalue⟩⟩
        rw [hvalue] at htext
        cases htext
        rw [List.foldl_cons, keepUnder_eq hname]
        exact (ih h).1 found hvalue

/-- So with any name, there is a text, and it is what is kept. -/
theorem kept_of_extract {names : List String} {path : String} (hpath : path ≠ "")
    (hnames : ∃ name ∈ names, name ≠ "")
    (h : Expect.extract response response.json? (names.map fun name => keepPath name path) ctx =
      ([], next)) :
    ∃ value, response.textAt? path = some value ∧ next = names.foldl (keepUnder value) ctx := by
  obtain ⟨hkept, hfound⟩ := extract_keepPath hpath h
  obtain ⟨value, hvalue⟩ := hfound hnames
  exact ⟨value, hvalue, hkept value hvalue⟩

/-! ## Codes of redirects -/

/-- The code of a redirect: what the pattern of codes finds in its location. -/
def redirectCode? (response : Response) : Option String :=
  match response.header? "Location", Pattern.compile codePattern with
  | some location, .ok pattern => pattern.capture? location
  | _, _ => none

/-- The rule that keeps the code of a redirect. -/
def keepCode : MatchRule :=
  { contextName := "authorization_code", header := "Location", regex := codePattern }

theorem keepCode_check {body : Option Json} {value : String}
    (h : keepCode.check response body ctx = .ok value) : redirectCode? response = some value := by
  have hkind : keepCode.kind = .headerRegex := by decide
  rw [MatchRule.check, hkind] at h
  unfold redirectCode?
  cases hheader : response.header? "Location" with
  | none =>
      have hmissing : keepCode.headerOf response keepCode.header =
          .error (.headerMissing keepCode.describe "Location") := by
        unfold MatchRule.headerOf
        simp only [keepCode, hheader]
      simp only [hmissing] at h
      cases h
  | some location =>
      have hfound : keepCode.headerOf response keepCode.header = .ok location := by
        unfold MatchRule.headerOf
        simp only [keepCode, hheader]
      simp only [hfound] at h
      unfold MatchRule.findIn at h
      cases hpattern : Pattern.compile codePattern with
      | error e =>
          simp only [keepCode, hpattern] at h
          cases h
      | ok pattern =>
          simp only [keepCode, hpattern] at h
          dsimp only
          cases hcapture : pattern.capture? location with
          | none =>
              rw [hcapture] at h
              cases h
          | some found =>
              rw [hcapture] at h
              cases h
              rfl

theorem extract_redirect
    (h : Expect.extract response response.json? [keepCode] ctx = ([], next)) :
    ∃ code, redirectCode? response = some code ∧
      next = ctx.putText "authorization_code" code := by
  obtain ⟨code, hcheck, h⟩ := Expect.extract_cons (r := keepCode) (by decide) h
  cases h
  exact ⟨code, keepCode_check hcheck, rfl⟩

end Component.Providers

end Conformance
