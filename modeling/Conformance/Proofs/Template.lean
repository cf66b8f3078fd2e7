import Conformance.Proofs.Context
import Conformance.Proofs.Except
import Conformance.Template

/-!
# Reading templates

How a template that ends in a variable is cut into pieces (`pieces_variable`), and what it expands
to (`expand_variable`). A text that begins with a dollar sign and a name never joins with the text
in front of it, so the two are cut apart on their own (`pieces_append`). Expanding a template as far
as possible never fails, and `filledText` is what it comes to (`expand_lenient_eq`). What is expanded
twice, first as far as possible and then strictly, takes the text of the first context where that has
one (`expand_twice`).
-/

namespace Conformance.Template

/-! ## Cutting -/

/-- A text that does not begin with a name character is cut on its own. -/
theorem split_append {ds : List Char} (h : (split ds).1 = []) (cs : List Char) :
    split (cs ++ ds) = ((split cs).1, (split cs).2 ++ (split ds).2) := by
  induction cs with
  | nil =>
      rw [List.nil_append]
      exact Prod.ext h rfl
  | cons c rest ih =>
      simp only [List.cons_append, split, ih]
      split
      · rfl
      · split <;> simp

theorem pieces_append {ds : List Char} (h : (split ds).1 = []) (cs : List Char) :
    pieces (cs ++ ds) = pieces cs ++ pieces ds := by
  simp [pieces, split_append h, h]

/-- Name characters at the front of a text are all one name. -/
theorem split_name_append {name : List Char} (h : ∀ c ∈ name, isNameChar c = true)
    (cs : List Char) : split (name ++ cs) = (name ++ (split cs).1, (split cs).2) := by
  induction name with
  | nil => rfl
  | cons c rest ih =>
      obtain ⟨hc, hrest⟩ := List.forall_mem_cons.mp h
      rw [List.cons_append, split, ih hrest]
      simp [hc]

/-- A dollar sign makes a variable of the name behind it. -/
theorem split_dollar {cs name : List Char} {ps : List Piece} (h : split cs = (name, ps)) :
    split ('$' :: cs) =
      ([], if name = [] then .literal '$' :: ps else .variable name :: ps) := by
  have hdollar : isNameChar '$' = false := by decide
  by_cases hname : name = [] <;> simp [split, h, hdollar, hname]

/-- In a text without dollar signs, a name stands in front of literals. -/
theorem split_of_no_dollar {cs : List Char} (h : '$' ∉ cs) :
    ∃ name back, cs = name ++ back ∧ split cs = (name, back.map .literal) := by
  induction cs with
  | nil => exact ⟨[], [], rfl, rfl⟩
  | cons c rest ih =>
      have hc : c ≠ '$' := fun hd => h (by simp [hd])
      obtain ⟨name, back, hrest, hsplit⟩ := ih fun hd => h (List.mem_cons_of_mem c hd)
      by_cases hname : isNameChar c = true
      · exact ⟨c :: name, back, by rw [hrest, List.cons_append], by simp [split, hsplit, hname]⟩
      · refine ⟨[], c :: rest, rfl, ?_⟩
        simp [split, hsplit, hname, hc, congrArg (List.map Piece.literal) hrest]

/-- A text without dollar signs stands for itself. -/
theorem pieces_of_no_dollar {cs : List Char} (h : '$' ∉ cs) : pieces cs = cs.map .literal := by
  obtain ⟨name, back, rfl, hsplit⟩ := split_of_no_dollar h
  rw [pieces, hsplit, List.map_append]

/-- A text without dollar signs that no name goes on with is all literals. -/
theorem split_of_stop {cs : List Char} (h : '$' ∉ cs) (hend : ∀ c ∈ cs.head?, isNameChar c = false) :
    split cs = ([], cs.map .literal) := by
  cases cs with
  | nil => rfl
  | cons c rest =>
      rw [List.mem_cons, not_or] at h
      obtain ⟨name, back, rfl, hsplit⟩ := split_of_no_dollar h.2
      have hc : isNameChar c = false := hend c rfl
      simp [split, hsplit, hc, Ne.symm h.1]

/-- A variable between texts is one piece. -/
theorem pieces_between {front name : List Char} (back : List Char) (hfront : '$' ∉ front)
    (hne : name ≠ []) (hname : ∀ c ∈ name, isNameChar c = true) (hback : '$' ∉ back)
    (hend : ∀ c ∈ back.head?, isNameChar c = false) :
    pieces (front ++ '$' :: (name ++ back)) =
      front.map .literal ++ .variable name :: back.map .literal := by
  have hsplit : split ('$' :: (name ++ back)) = ([], .variable name :: back.map .literal) := by
    have hrest := split_name_append hname back
    rw [split_of_stop hback hend, List.append_nil] at hrest
    rw [split_dollar hrest, if_neg hne]
  rw [pieces_append (by rw [hsplit]), pieces_of_no_dollar hfront]
  simp [pieces, hsplit]

/-- A variable at the end of a template is one piece. -/
theorem pieces_variable {cs name : List Char} (hcs : '$' ∉ cs) (hne : name ≠ [])
    (h : ∀ c ∈ name, isNameChar c = true) :
    pieces (cs ++ '$' :: name) = cs.map .literal ++ [.variable name] := by
  have hbetween := pieces_between [] hcs hne h nofun nofun
  rwa [List.append_nil] at hbetween

/-! ## Expanding -/

theorem expandAll_literals (ctx : Context) (mode : Expansion) (cs : List Char) (ps : List Piece) :
    expandAll ctx mode (cs.map .literal ++ ps) = (expandAll ctx mode ps).map (cs ++ ·) := by
  induction cs with
  | nil =>
      cases h : expandAll ctx mode ps <;> simp [h, Except.map]
  | cons c rest ih =>
      rw [List.map_cons, List.cons_append]
      simp only [expandAll, Piece.expand, ih]
      cases expandAll ctx mode ps <;> simp [Except.map]

theorem expandAll_map_literal (ctx : Context) (mode : Expansion) (cs : List Char) :
    expandAll ctx mode (cs.map .literal) = .ok cs := by
  have hliterals := expandAll_literals ctx mode cs []
  rw [List.append_nil] at hliterals
  rw [hliterals]
  simp [expandAll, Except.map]

/-- A variable between texts expands to the text that the context holds under its name. -/
theorem expand_between {ctx : Context} {name value : String} (mode : Expansion)
    (front back : String) (hfront : '$' ∉ front.toList) (hne : name ≠ "")
    (hname : ∀ c ∈ name.toList, isNameChar c = true) (hback : '$' ∉ back.toList)
    (hend : ∀ c ∈ back.toList.head?, isNameChar c = false) (hv : ctx.getText name = .ok value) :
    expand ctx mode (front ++ "$" ++ name ++ back) = .ok (front ++ value ++ back) := by
  have hne' : name.toList ≠ [] := by simpa using hne
  have hlist : (front ++ "$" ++ name ++ back).toList =
      front.toList ++ '$' :: (name.toList ++ back.toList) := by
    simp [String.toList_append]
  have hpiece : Piece.expand ctx mode (.variable name.toList) = .ok value.toList := by
    simp [Piece.expand, String.ofList_toList, hv]
  rw [expand, hlist, pieces_between _ hfront hne' hname hback hend, expandAll_literals, expandAll,
    hpiece, expandAll_map_literal]
  simp [Except.map, String.ofList_append, String.ofList_toList, String.append_assoc]

/-- A template that ends in a variable expands to the text in front of it and the text that the
context holds under its name. -/
theorem expand_variable {ctx : Context} {front name value : String} (mode : Expansion)
    (hfront : '$' ∉ front.toList) (hne : name ≠ "")
    (hname : ∀ c ∈ name.toList, isNameChar c = true) (hv : ctx.getText name = .ok value) :
    expand ctx mode (front ++ "$" ++ name) = .ok (front ++ value) := by
  have hbetween := expand_between mode front "" hfront hne hname nofun nofun hv
  rwa [String.append_empty, String.append_empty] at hbetween

/-- A text without dollar signs expands to itself. -/
theorem expand_of_no_dollar (ctx : Context) (mode : Expansion) {template : String}
    (h : '$' ∉ template.toList) : expand ctx mode template = .ok template := by
  rw [expand, pieces_of_no_dollar h, expandAll_map_literal]
  simp [Except.map, String.ofList_toList]

/-! ## Expanding as far as possible -/

/-- A variable at the end of a template stays when the context holds no text under its name. -/
theorem expand_unknown {ctx : Context} {front name : String} (hfront : '$' ∉ front.toList)
    (hne : name ≠ "") (hname : ∀ c ∈ name.toList, isNameChar c = true)
    (hv : ∀ value, ctx.getText name ≠ .ok value) :
    expand ctx .lenient (front ++ "$" ++ name) = .ok (front ++ "$" ++ name) := by
  have hne' : name.toList ≠ [] := by simpa using hne
  have hlist : (front ++ "$" ++ name).toList = front.toList ++ '$' :: name.toList := by
    simp [String.toList_append]
  have hpiece : expandAll ctx .lenient [.variable name.toList] = .ok ('$' :: name.toList) := by
    cases htext : ctx.getText name with
    | ok value => exact absurd htext (hv value)
    | error e => simp [expandAll, Piece.expand, String.ofList_toList, htext]
  have hback : String.ofList (front.toList ++ '$' :: name.toList) = front ++ "$" ++ name := by
    rw [← hlist, String.ofList_toList]
  rw [expand, hlist, pieces_variable hfront hne' hname, expandAll_literals, hpiece]
  exact congrArg Except.ok hback

/-- A template that ends in a variable, expanded as far as one context has texts for it and then
strictly with another: the first context decides if it has a text without dollar signs, and else the
second. -/
theorem expand_twice {ctx ctx' : Context} {front name template text value : String}
    (hfront : '$' ∉ front.toList) (hne : name ≠ "")
    (hname : ∀ c ∈ name.toList, isNameChar c = true)
    (hplain : ∀ early, ctx.getText name = .ok early → '$' ∉ early.toList)
    (hfirst : expand ctx .lenient (front ++ "$" ++ name) = .ok template)
    (hsecond : expand ctx' .strict template = .ok text) (hv : ctx'.getText name = .ok value) :
    text = front ++ match ctx.getText name with
      | .ok early => early
      | .error _ => value := by
  cases hearly : ctx.getText name with
  | ok early =>
      rw [expand_variable .lenient hfront hne hname hearly] at hfirst
      cases hfirst
      have hdollar : '$' ∉ (front ++ early).toList := by
        rw [String.toList_append, List.mem_append, not_or]
        exact ⟨hfront, hplain early hearly⟩
      rw [expand_of_no_dollar ctx' .strict hdollar] at hsecond
      cases hsecond
      rfl
  | error e =>
      rw [expand_unknown hfront hne hname (by rw [hearly]; nofun)] at hfirst
      cases hfirst
      rw [expand_variable .strict hfront hne hname hv] at hsecond
      cases hsecond
      rfl

/-- What stands for a piece in the end: the text of a variable that has one, and else the piece as it
is written. -/
def Piece.filled (ctx : Context) : Piece → List Char
  | .literal c => [c]
  | .variable name =>
      match ctx.text? (String.ofList name) with
      | some value => value.toList
      | none => '$' :: name

theorem Piece.expand_lenient (ctx : Context) (p : Piece) :
    p.expand ctx .lenient = .ok (p.filled ctx) := by
  rcases p with c | name
  · rfl
  · rcases ctx.getText_cases (String.ofList name) with ⟨text, htext, hread⟩ | ⟨htext, e, hread⟩
    · simp only [Piece.expand, Piece.filled, htext, hread]
    · simp only [Piece.expand, Piece.filled, htext, hread]

theorem expandAll_lenient (ctx : Context) (ps : List Piece) :
    expandAll ctx .lenient ps = .ok (ps.flatMap (Piece.filled ctx)) := by
  induction ps with
  | nil => rfl
  | cons p rest ih => simp only [expandAll, p.expand_lenient ctx, ih, List.flatMap_cons]

/-- A template with every variable that has a text replaced by it and every other one left as it is
written. -/
def filledText (ctx : Context) (template : String) : String :=
  String.ofList ((pieces template.toList).flatMap (Piece.filled ctx))

theorem expand_lenient_eq (ctx : Context) (template : String) :
    expand ctx .lenient template = .ok (filledText ctx template) := by
  rw [expand, expandAll_lenient]
  rfl

/-! ## The names of variables -/

/-- The names of the variables of a template. -/
def names (template : String) : List String :=
  (pieces template.toList).filterMap fun
    | .literal _ => none
    | .variable name => some (String.ofList name)

/-- Where all variables have texts, both modes put them in. -/
theorem expandAll_of_texts {ctx : Context} (mode : Expansion) {ps : List Piece}
    (h : ∀ name, .variable name ∈ ps → ∃ text, ctx.getText (String.ofList name) = .ok text) :
    expandAll ctx mode ps = .ok (ps.flatMap (Piece.filled ctx)) := by
  induction ps with
  | nil => rfl
  | cons p rest ih =>
      have hrest := ih fun name hname => h name (List.mem_cons_of_mem p hname)
      have hp : p.expand ctx mode = .ok (p.filled ctx) := by
        rw [← p.expand_lenient]
        cases p with
        | literal c => rfl
        | «variable» name =>
            obtain ⟨text, htext⟩ := h name List.mem_cons_self
            simp only [Piece.expand, htext]
      simp only [expandAll, hp, hrest, List.flatMap_cons]

/-- A template whose variables all have texts can be expanded. -/
theorem expand_of_texts {ctx : Context} (mode : Expansion) {template : String}
    (h : ∀ name ∈ names template, ∃ text, ctx.getText name = .ok text) :
    expand ctx mode template = .ok (filledText ctx template) := by
  rw [expand, expandAll_of_texts mode fun name hname => h _ (List.mem_filterMap.mpr ⟨_, hname, rfl⟩)]
  rfl

/-! ## Templates with one variable -/

/-- A template with one dollar sign has one variable, or none. -/
theorem pieces_of_one_dollar {cs : List Char} (h : cs.count '$' ≤ 1) :
    pieces cs = cs.map .literal ∨
      ∃ front name back, cs = front ++ '$' :: (name ++ back) ∧ '$' ∉ front ∧ '$' ∉ back ∧
        pieces cs = front.map .literal ++ .variable name :: back.map .literal := by
  by_cases hdollar : '$' ∈ cs
  · obtain ⟨front, rest, rfl, hfront⟩ := List.eq_append_cons_of_mem hdollar
    have hrest : '$' ∉ rest := by
      rw [List.count_append, List.count_cons_self] at h
      exact List.count_eq_zero.mp (by omega)
    obtain ⟨name, back, rfl, hsplit⟩ := split_of_no_dollar hrest
    have hcut := split_dollar hsplit
    have hpieces : pieces (front ++ '$' :: (name ++ back)) =
        front.map .literal ++ pieces ('$' :: (name ++ back)) := by
      rw [pieces_append (by rw [hcut]), pieces_of_no_dollar hfront]
    rw [hpieces, pieces, hcut]
    by_cases hname : name = []
    · left
      subst hname
      simp
    · right
      refine ⟨front, name, back, rfl, hfront, fun hd => hrest (List.mem_append_right _ hd), ?_⟩
      rw [if_neg hname]
      rfl
  · exact .inl (pieces_of_no_dollar hdollar)

/-- Expanded as far as possible with a context without dollar signs, a template with one variable
stays as it is or has no dollar sign left. -/
theorem expand_lenient_of_one_dollar {ctx : Context} {template s : String}
    (hone : template.toList.count '$' ≤ 1)
    (hplain : ∀ name text, ctx.getText name = .ok text → '$' ∉ text.toList)
    (h : expand ctx .lenient template = .ok s) : s = template ∨ '$' ∉ s.toList := by
  rcases pieces_of_one_dollar hone with hpieces | ⟨front, name, back, hcs, hfront, hback, hpieces⟩
  · left
    rw [expand, hpieces, expandAll_map_literal] at h
    cases h
    exact String.ofList_toList
  · rw [expand, hpieces, expandAll_literals] at h
    cases htext : ctx.getText (String.ofList name) with
    | ok text =>
        right
        simp only [expandAll, Piece.expand, htext, expandAll_map_literal] at h
        cases h
        simp [hfront, hback, hplain _ _ htext]
    | error e =>
        left
        simp only [expandAll, Piece.expand, htext, expandAll_map_literal] at h
        cases h
        dsimp only
        rw [List.cons_append, ← hcs, String.ofList_toList]

/-- So expanding it strictly succeeds when its variable has a text by then. -/
theorem expand_twice_succeeds {early ctx : Context} {template s : String}
    (hone : template.toList.count '$' ≤ 1)
    (hplain : ∀ name text, early.getText name = .ok text → '$' ∉ text.toList)
    (hfirst : expand early .lenient template = .ok s)
    (hknown : ∀ name ∈ names template, ∃ text, ctx.getText name = .ok text) :
    ∃ text, expand ctx .strict s = .ok text := by
  rcases expand_lenient_of_one_dollar hone hplain hfirst with rfl | hnone
  · exact ⟨_, expand_of_texts .strict hknown⟩
  · exact ⟨s, expand_of_no_dollar ctx .strict hnone⟩

end Conformance.Template
