import Conformance.Proofs.Template.Tokens

/-!
# Expanding in layers

A template may be expanded as far as an early context has texts for it, and what is left of it with a
later context that has more. The early texts are put in as characters, and nothing marks where they
begin: behind a lone dollar sign, or behind a variable that stays, a text that begins like a name is
read as part of that name when what is left is cut afresh. `keepsApart` says that this happens
nowhere. `expand_layered` says that exactly then what is left is cut as if the texts stood there from
the start, and that then the second expansion comes to what expanding at once would have come to. In
`pairedTemplate` two variables stand side by side, and expanding it in layers fails
(`pairedTemplate_joined`).
-/

namespace Conformance.Template

variable {early late : Context}

/-! ## What is left of a template -/

/-- What is left of a piece: the characters of its text if it has one, and else itself. -/
def Piece.left (ctx : Context) : Piece → List Piece
  | .literal c => [.literal c]
  | .variable name =>
      match ctx.text? (String.ofList name) with
      | some value => value.toList.map .literal
      | none => [.variable name]

/-- What is left of a piece is written like what stands for it after a lenient expansion. -/
theorem Piece.flatMap_source_left (ctx : Context) (p : Piece) :
    (p.left ctx).flatMap Piece.source = p.filled ctx := by
  cases p with
  | literal c => rfl
  | «variable» name =>
      cases htext : ctx.text? (String.ofList name) with
      | some text => simp only [Piece.left, Piece.filled, htext, flatMap_source_literals]
      | none => simp [Piece.left, Piece.filled, htext, Piece.source]

theorem flatMap_source_left (ctx : Context) (ps : List Piece) :
    (ps.flatMap (Piece.left ctx)).flatMap Piece.source = ps.flatMap (Piece.filled ctx) := by
  rw [List.flatMap_assoc]
  congr 1
  funext p
  exact p.flatMap_source_left ctx

/-! ## Texts that stay apart -/

/-- Whether no text is put where it goes on with a dollar sign or a variable that stays. `isOpen` says
whether what stands in front of the pieces would take in a name. -/
def staysApart (ctx : Context) : Bool → List Piece → Bool
  | _, [] => true
  | _, .literal c :: ps => staysApart ctx (c == '$') ps
  | isOpen, .variable name :: ps =>
      match ctx.text? (String.ofList name) with
      | some value =>
          match value.toList with
          | [] => staysApart ctx isOpen ps
          | c :: _ => !(isOpen && isNameChar c) && staysApart ctx false ps
      | none => staysApart ctx true ps

/-- Whether expanding a template as far as possible puts no text that begins like a name behind a lone
dollar sign or a variable that stays, with at most empty texts in between. -/
def keepsApart (ctx : Context) (template : String) : Bool :=
  staysApart ctx false (pieces template.toList)

/-- What is left of well-cut pieces is well cut exactly if the texts stay apart. The induction carries
along whether something open stands in front: then neither the pieces nor what is left of them may
begin with a character of a name. -/
theorem wellCut_left_iff (hplain : ∀ key text, early.getText key = .ok text → '$' ∉ text.toList)
    {ps : List Piece} (hps : WellCut ps) (isOpen : Bool)
    (hfront : isOpen = true → ∀ q ∈ ps.head?, q.isNamePart = false) :
    (WellCut (ps.flatMap (Piece.left early)) ∧
        (isOpen = true → ∀ q ∈ (ps.flatMap (Piece.left early)).head?, q.isNamePart = false)) ↔
      staysApart early isOpen ps = true := by
  induction ps generalizing isOpen with
  | nil => simp [staysApart, wellCut_nil]
  | cons p rest ih =>
      rw [List.flatMap_cons]
      cases p with
      | literal c =>
          obtain ⟨hhead, hrest⟩ := wellCut_literal.mp hps
          have hown : isOpen = true → isNameChar c = false := fun h => hfront h _ rfl
          have hind := ih hrest (c == '$') fun h => hhead (by simpa using h)
          rw [staysApart, ← hind]
          show WellCut (.literal c :: rest.flatMap (Piece.left early)) ∧ _ ↔ _
          rw [wellCut_literal]
          constructor
          · rintro ⟨⟨hbehind, hcut⟩, -⟩
            exact ⟨hcut, fun h => hbehind (by simpa using h)⟩
          · rintro ⟨hcut, hbehind⟩
            refine ⟨⟨fun h => hbehind (by simpa using h), hcut⟩, ?_⟩
            intro hopen q hq
            cases hq
            exact hown hopen
      | «variable» name =>
          obtain ⟨hname, hhead, hrest⟩ := wellCut_variable.mp hps
          rw [Piece.left, staysApart]
          rcases early.getText_cases (String.ofList name) with ⟨text, htext, hread⟩ | ⟨htext, -⟩
          · have hdollar : '$' ∉ text.toList := hplain _ text hread
            simp only [htext]
            rw [wellCut_literals hdollar]
            cases hchars : text.toList with
            | nil => exact ih hrest isOpen fun _ => hhead
            | cons c more =>
                have hind := ih hrest false nofun
                simp only [Bool.and_eq_true, ← hind]
                constructor
                · rintro ⟨hcut, hbegin⟩
                  refine ⟨?_, hcut, nofun⟩
                  cases isOpen with
                  | false => rfl
                  | true =>
                      have hc : isNameChar c = false := hbegin rfl _ rfl
                      simp [hc]
                · rintro ⟨hbegin, hcut, -⟩
                  refine ⟨hcut, ?_⟩
                  rintro rfl q hq
                  cases hq
                  simpa [Piece.isNamePart] using hbegin
          · have hind := ih hrest true fun _ => hhead
            simp only [htext]
            rw [← hind]
            show WellCut (.variable name :: rest.flatMap (Piece.left early)) ∧ _ ↔ _
            rw [wellCut_variable]
            constructor
            · rintro ⟨⟨-, hbehind, hcut⟩, -⟩
              exact ⟨hcut, fun _ => hbehind⟩
            · rintro ⟨hcut, hbehind⟩
              refine ⟨⟨hname, hbehind rfl, hcut⟩, ?_⟩
              intro _ q hq
              cases hq
              rfl

/-- So what is left of a template is cut as before exactly if the texts stay apart. -/
theorem pieces_filled_iff (hplain : ∀ key text, early.getText key = .ok text → '$' ∉ text.toList)
    (template : String) :
    pieces (filledText early template).toList =
        (pieces template.toList).flatMap (Piece.left early) ↔
      keepsApart early template = true := by
  have hcut := wellCut_left_iff hplain (wellCut_pieces template.toList) false nofun
  rw [keepsApart, ← hcut, filledText, String.toList_ofList, pieces_eq_iff, flatMap_source_left]
  constructor
  · rintro ⟨-, h⟩
    exact ⟨h, nofun⟩
  · rintro ⟨h, -⟩
    exact ⟨rfl, h⟩

/-! ## The second expansion -/

/-- What is left of pieces expands like the pieces, with a context that keeps the early texts. -/
theorem expandAll_left
    (hagree : ∀ key v, early.values.get? key = some v → late.values.get? key = some v)
    (mode : Expansion) (ps : List Piece) :
    expandAll late mode (ps.flatMap (Piece.left early)) = expandAll late mode ps := by
  induction ps with
  | nil => rfl
  | cons p rest ih =>
      rw [List.flatMap_cons]
      cases p with
      | literal c =>
          show expandAll late mode (.literal c :: rest.flatMap (Piece.left early)) = _
          simp only [expandAll, ih]
      | «variable» name =>
          cases htext : early.text? (String.ofList name) with
          | some text =>
              have hlate : late.getText (String.ofList name) = .ok text :=
                Context.getText_eq_ok_iff.mpr (hagree _ _ (Context.text?_eq_some_iff.mp htext))
              simp only [Piece.left, htext]
              rw [expandAll_literals, ih]
              simp only [expandAll, Piece.expand, hlate]
              cases expandAll late mode rest <;> rfl
          | none =>
              simp only [Piece.left, htext]
              show expandAll late mode (.variable name :: rest.flatMap (Piece.left early)) = _
              simp only [expandAll, ih]

/-- **Expanding in layers.** The early context has no dollar signs, and the later one holds what it
holds. Expanding a template as far as the early context has texts succeeds. What is left is cut into
the pieces of the template, with the characters of the texts in place of their variables, exactly if
the texts stay apart. In that case expanding it with the later context comes to the same as expanding
the template with it at once, in both modes, with the same text or the same error. -/
theorem expand_layered
    (hagree : ∀ key v, early.values.get? key = some v → late.values.get? key = some v)
    (hplain : ∀ key text, early.getText key = .ok text → '$' ∉ text.toList) (template : String) :
    ∃ rest, expand early .lenient template = .ok rest ∧
      (pieces rest.toList = (pieces template.toList).flatMap (Piece.left early) ↔
        keepsApart early template = true) ∧
      (keepsApart early template = true →
        ∀ mode, expand late mode rest = expand late mode template) := by
  have hcut := pieces_filled_iff hplain template
  refine ⟨filledText early template, expand_lenient_eq early template, hcut, ?_⟩
  intro happart mode
  rw [expand, expand, hcut.mpr happart, expandAll_left hagree]

/-! ## Two templates -/

/-- The values that are known when a flow starts. -/
def flowStart : Context := Context.empty.putText "environment" "prod"

/-- The values that are known when its first step has made a consent. -/
def flowLater : Context := flowStart.putText "consent_id" "aac-1"

theorem flowStart_get? (key : String) :
    flowStart.values.get? key = if "environment" = key then some (.text "prod") else none :=
  KeyMap.get?_put ..

theorem flowLater_agrees (key : String) (v : Context.Value)
    (h : flowStart.values.get? key = some v) : flowLater.values.get? key = some v := by
  have hlater : flowLater.values.get? key =
      if "consent_id" = key then some (.text "aac-1") else flowStart.values.get? key :=
    KeyMap.get?_put ..
  rw [hlater, if_neg, h]
  rintro rfl
  rw [flowStart_get?, if_neg (by decide)] at h
  cases h

theorem flowStart_plain (key text : String) (h : flowStart.getText key = .ok text) :
    '$' ∉ text.toList := by
  rw [Context.getText_eq_ok_iff, flowStart_get?] at h
  split at h
  · cases h
    decide
  · cases h

/-- A path that ends in a variable which is known at the start, behind one that is not. -/
def pathTemplate : String := "/$consent_id/$environment"

/-- A slash keeps the two variables of a path apart, so it may be expanded in layers. -/
theorem pathTemplate_layered :
    (∀ key v, flowStart.values.get? key = some v → flowLater.values.get? key = some v) ∧
      (∀ key text, flowStart.getText key = .ok text → '$' ∉ text.toList) ∧
      keepsApart flowStart pathTemplate = true ∧
      ∃ rest, expand flowStart .lenient pathTemplate = .ok rest ∧
        ∀ mode, expand flowLater mode rest = expand flowLater mode pathTemplate := by
  have happart : keepsApart flowStart pathTemplate = true := by decide
  obtain ⟨rest, hrest, -, hlayered⟩ := expand_layered flowLater_agrees flowStart_plain pathTemplate
  exact ⟨flowLater_agrees, flowStart_plain, happart, rest, hrest, hlayered happart⟩

/-- The same two variables side by side. -/
def pairedTemplate : String := "$consent_id$environment"

/-- Expanded at once, the two variables side by side come to their texts. Expanded in layers, the text
of the second goes on with the name of the first, which is then unknown. -/
theorem pairedTemplate_joined :
    (∀ key v, flowStart.values.get? key = some v → flowLater.values.get? key = some v) ∧
      (∀ key text, flowStart.getText key = .ok text → '$' ∉ text.toList) ∧
      expand flowLater .strict pairedTemplate = .ok "aac-1prod" ∧
      expand flowStart .lenient pairedTemplate = .ok "$consent_idprod" ∧
      expand flowLater .strict "$consent_idprod" = .error (.missing "consent_idprod") ∧
      ¬ ∃ rest, expand flowStart .lenient pairedTemplate = .ok rest ∧
        expand flowLater .strict rest = .ok "aac-1prod" := by
  have hleft : expand flowStart .lenient pairedTemplate = .ok "$consent_idprod" := by decide
  have hjoined :
      expand flowLater .strict "$consent_idprod" = .error (.missing "consent_idprod") := by
    decide
  refine ⟨flowLater_agrees, flowStart_plain, by decide, hleft, hjoined, ?_⟩
  rintro ⟨rest, hrest, htext⟩
  rw [hleft] at hrest
  cases hrest
  rw [hjoined] at htext
  cases htext

end Conformance.Template
