import Conformance.Proofs.Template

/-!
# Strict and lenient expansion

The two modes of expansion, compared. Lenient expansion puts the text of a context wherever a variable
has one, without looking at it again, and leaves every other variable as it is written
(`expandAll_lenient`). Strict expansion does the same where all variables have texts
(`expandAll_of_texts`), and else fails for the leftmost one that has none
(`expandAll_strict_eq_error_iff`). `expand_modes` says both of whole templates.
-/

namespace Conformance

/-- A text cannot be read under a name that is not set, or that holds something else. -/
theorem Context.getText_eq_error_iff {ctx : Context} {name : String} {e : ExpandError} :
    (∃ x, ctx.getText name = .error x ∧ e = x.toExpandError) ↔
      (ctx.values.get? name = none ∧ e = .missing name) ∨
        ∃ v, ctx.values.get? name = some v ∧ (∀ text, v ≠ .text text) ∧ e = .notText name v.kind := by
  unfold Context.getText Context.get
  cases ctx.values.get? name with
  | none => simp [ContextError.toExpandError]
  | some v => cases v <;> simp [ContextError.toExpandError]

namespace Template

variable {ctx : Context}

/-- The name of a variable. -/
def Piece.name? : Piece → Option String
  | .literal _ => none
  | .variable name => some (String.ofList name)

theorem names_eq (template : String) :
    names template = (pieces template.toList).filterMap Piece.name? := by
  unfold names
  congr 1

/-! ## Strict expansion -/

/-- The first variable without a text decides how pieces fail to expand. -/
theorem expandAll_strict_of_error {ps : List Piece} {front back : List String} {name : String}
    {x : ContextError} (hps : ps.filterMap Piece.name? = front ++ name :: back)
    (hfront : ∀ n ∈ front, ∃ text, ctx.getText n = .ok text) (hx : ctx.getText name = .error x) :
    expandAll ctx .strict ps = .error x.toExpandError := by
  induction ps generalizing front with
  | nil =>
      rw [List.filterMap_nil] at hps
      exact absurd hps.symm (by simp)
  | cons p rest ih =>
      cases p with
      | literal c =>
          have hrest : expandAll ctx .strict rest = .error x.toExpandError := ih hps hfront
          simp only [expandAll, Piece.expand, hrest]
      | «variable» own =>
          have hown : String.ofList own :: rest.filterMap Piece.name? = front ++ name :: back := hps
          cases front with
          | nil =>
              obtain ⟨rfl, -⟩ := List.cons.inj hown
              simp only [expandAll, Piece.expand, hx]
          | cons n more =>
              obtain ⟨rfl, hmore⟩ := List.cons.inj hown
              obtain ⟨⟨text, htext⟩, hheld⟩ := List.forall_mem_cons.mp hfront
              have hrest : expandAll ctx .strict rest = .error x.toExpandError := ih hmore hheld
              simp only [expandAll, Piece.expand, htext, hrest]

/-- Either all names hold texts, or there is a first one that does not. -/
theorem texts_or_error (ctx : Context) (ns : List String) :
    (∀ name ∈ ns, ∃ text, ctx.getText name = .ok text) ∨
      ∃ front name back x, ns = front ++ name :: back ∧
        (∀ n ∈ front, ∃ text, ctx.getText n = .ok text) ∧ ctx.getText name = .error x := by
  induction ns with
  | nil => exact .inl fun _ h => absurd h List.not_mem_nil
  | cons n rest ih =>
      cases hn : ctx.getText n with
      | ok text =>
          rcases ih with hall | ⟨front, name, back, x, rfl, hfront, hx⟩
          · exact .inl (List.forall_mem_cons.mpr ⟨⟨text, hn⟩, hall⟩)
          · right
            exact ⟨n :: front, name, back, x, rfl, List.forall_mem_cons.mpr ⟨⟨text, hn⟩, hfront⟩, hx⟩
      | error x => exact .inr ⟨[], n, rest, x, rfl, fun _ h => absurd h List.not_mem_nil, hn⟩

theorem expandAll_of_names (mode : Expansion) {ps : List Piece}
    (h : ∀ name ∈ ps.filterMap Piece.name?, ∃ text, ctx.getText name = .ok text) :
    expandAll ctx mode ps = .ok (ps.flatMap (Piece.filled ctx)) :=
  expandAll_of_texts mode fun _ hname => h _ (List.mem_filterMap.mpr ⟨_, hname, rfl⟩)

theorem expandAll_strict_eq_error_iff {ps : List Piece} {e : ExpandError} :
    expandAll ctx .strict ps = .error e ↔
      ∃ front name back, ps.filterMap Piece.name? = front ++ name :: back ∧
        (∀ n ∈ front, ∃ text, ctx.getText n = .ok text) ∧
        ∃ x, ctx.getText name = .error x ∧ e = x.toExpandError := by
  constructor
  · intro h
    rcases texts_or_error ctx (ps.filterMap Piece.name?) with
      hall | ⟨front, name, back, x, hps, hfront, hx⟩
    · rw [expandAll_of_names .strict hall] at h
      cases h
    · rw [expandAll_strict_of_error hps hfront hx] at h
      cases h
      exact ⟨front, name, back, hps, hfront, x, hx, rfl⟩
  · rintro ⟨front, name, back, hps, hfront, x, hx, rfl⟩
    exact expandAll_strict_of_error hps hfront hx

theorem expandAll_strict_eq_ok_iff {ps : List Piece} {cs : List Char} :
    expandAll ctx .strict ps = .ok cs ↔
      (∀ name ∈ ps.filterMap Piece.name?, ∃ text, ctx.getText name = .ok text) ∧
        cs = ps.flatMap (Piece.filled ctx) := by
  constructor
  · intro h
    rcases texts_or_error ctx (ps.filterMap Piece.name?) with
      hall | ⟨front, name, back, x, hps, hfront, hx⟩
    · rw [expandAll_of_names .strict hall] at h
      cases h
      exact ⟨hall, rfl⟩
    · rw [expandAll_strict_of_error hps hfront hx] at h
      cases h
  · rintro ⟨hall, rfl⟩
    exact expandAll_of_names .strict hall

/-! ## Templates -/

/-- **Strict and lenient expansion.** Lenient expansion never fails: it yields the template with the
texts of its variables put in as they are, and the variables without a text left as they are written.
Strict expansion succeeds exactly if the name of every variable holds a text, and then yields the same.
It fails exactly for the leftmost variable whose name holds no text, because the name is not set or
holds a value of another kind. -/
theorem expand_modes (ctx : Context) (template : String) :
    expand ctx .lenient template = .ok (filledText ctx template) ∧
      ((∃ s, expand ctx .strict template = .ok s) ↔
        ∀ name ∈ names template, ∃ text, ctx.values.get? name = some (.text text)) ∧
      (∀ s, expand ctx .strict template = .ok s → expand ctx .lenient template = .ok s) ∧
      ∀ e, expand ctx .strict template = .error e ↔
        ∃ front name back, names template = front ++ name :: back ∧
          (∀ n ∈ front, ∃ text, ctx.values.get? n = some (.text text)) ∧
          ((ctx.values.get? name = none ∧ e = .missing name) ∨
            ∃ v, ctx.values.get? name = some v ∧ (∀ text, v ≠ .text text) ∧
              e = .notText name v.kind) := by
  have hstrict : ∀ s, expand ctx .strict template = .ok s ↔
      (∀ name ∈ names template, ∃ text, ctx.getText name = .ok text) ∧
        s = filledText ctx template := by
    intro s
    rw [names_eq, expand]
    constructor
    · intro h
      obtain ⟨cs, hcs, rfl⟩ := Except.map_eq_ok_iff.mp h
      obtain ⟨hall, rfl⟩ := expandAll_strict_eq_ok_iff.mp hcs
      exact ⟨hall, rfl⟩
    · rintro ⟨hall, rfl⟩
      rw [expandAll_of_names .strict hall]
      rfl
  simp only [← Context.getText_eq_ok_iff, ← Context.getText_eq_error_iff]
  refine ⟨expand_lenient_eq ctx template, ⟨?_, ?_⟩, ?_, ?_⟩
  · rintro ⟨s, hs⟩
    exact ((hstrict s).mp hs).1
  · intro hall
    exact ⟨_, (hstrict _).mpr ⟨hall, rfl⟩⟩
  · intro s hs
    rw [expand_lenient_eq, ((hstrict s).mp hs).2]
  · intro e
    rw [names_eq, expand, Except.map_eq_error_iff]
    exact expandAll_strict_eq_error_iff

/-- A template with three variables. -/
def mixedTemplate : String := "é $amount: $codes/$id."

/-- A context in which one of them names a text, one a list, and one nothing. The text has a dollar sign
of its own. -/
def mixedValues : Context := .ofList [("amount", .text "$id"), ("codes", .texts ["A"])]

/-- The same context with a text under all three names. -/
def filledValues : Context := (mixedValues.putText "codes" "A").putText "id" ""

/-- Lenient expansion puts in the text only, and strict expansion fails for the list. With a text under
all three names both come to the same. -/
theorem mixedTemplate_modes :
    names mixedTemplate = ["amount", "codes", "id"] ∧
      expand mixedValues .lenient mixedTemplate = .ok "é $id: $codes/$id." ∧
      expand mixedValues .strict mixedTemplate = .error (.notText "codes" "string slice") ∧
      expand filledValues .strict mixedTemplate = .ok "é $id: A/." ∧
      expand filledValues .lenient mixedTemplate = .ok "é $id: A/." := by
  have hnames : names mixedTemplate = ["amount", "codes", "id"] := by decide +kernel
  have hfilled : expand filledValues .strict mixedTemplate = .ok "é $id: A/." := by decide +kernel
  obtain ⟨hlenient, -, -, herror⟩ := expand_modes mixedValues mixedTemplate
  obtain ⟨-, -, hsame, -⟩ := expand_modes filledValues mixedTemplate
  refine ⟨hnames, ?_, ?_, hfilled, hsame _ hfilled⟩
  · rw [hlenient]
    decide +kernel
  · refine (herror _).mpr ⟨["amount"], "codes", ["id"], hnames, ?_, .inr ⟨_, rfl, nofun, rfl⟩⟩
    exact List.forall_mem_singleton.mpr ⟨"$id", rfl⟩

/-- A text that holds its own name is put in as it is. -/
example : expand (Context.empty.putText "loop" "x$loop") .strict "[$loop]" = .ok "[x$loop]" := by
  cbv

end Template

end Conformance
