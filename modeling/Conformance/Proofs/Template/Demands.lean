import Conformance.Proofs.Template.Modes
import Conformance.Proofs.Template.Tokens

/-!
# What expanding demands

Whatever is made of templates is expanded in the same way: the texts of its variables are read in
order, and if none of them is demanded in vain, the result is what the templates come to with the
texts put in. `demand` is the reading, `Yields` says that a computation is one such reading, and
`Yields.bind` puts two of them in a row. So it is enough to know the variables in order, and the
result: `yields_expand`, `yields_expandOption` and `yields_mapM` do this for templates, for those that
may be absent and for the values of maps.
-/

namespace Conformance

namespace Template

variable {ctx : Context} {mode : Expansion}

/-! ## Reading the texts of names -/

/-- Read the text of each name in turn. In strict mode the first name without one is an error. -/
def demand (ctx : Context) (mode : Expansion) : List String → Except ExpandError Unit
  | [] => .ok ()
  | name :: rest =>
      match ctx.getText name, mode with
      | .ok _, _ => demand ctx mode rest
      | .error e, .strict => .error e.toExpandError
      | .error _, .lenient => demand ctx mode rest

theorem demand_lenient (names : List String) : demand ctx .lenient names = .ok () := by
  induction names with
  | nil => rfl
  | cons name rest ih =>
      cases hread : ctx.getText name <;> simp only [demand, hread, ih]

theorem demand_append (front back : List String) :
    demand ctx mode (front ++ back) = demand ctx mode front >>= fun _ => demand ctx mode back := by
  induction front with
  | nil => rfl
  | cons name rest ih =>
      rw [List.cons_append]
      cases hread : ctx.getText name with
      | ok text => simp only [demand, hread, ih]
      | error e =>
          cases mode with
          | strict =>
              simp only [demand, hread]
              rfl
          | lenient => simp only [demand, hread, ih]

theorem demand_strict_eq_ok_iff {names : List String} :
    demand ctx .strict names = .ok () ↔ ∀ name ∈ names, ∃ text, ctx.getText name = .ok text := by
  induction names with
  | nil => exact iff_of_true rfl fun _ h => absurd h List.not_mem_nil
  | cons name rest ih =>
      rw [List.forall_mem_cons, ← ih]
      cases hread : ctx.getText name <;> simp [demand, hread]

/-- Names are demanded in vain exactly if one of them has no text. -/
theorem demand_strict_fails_iff {names : List String} :
    (∃ e, demand ctx .strict names = .error e) ↔
      ∃ name ∈ names, ∀ text, ctx.getText name ≠ .ok text := by
  cases hdemand : demand ctx .strict names with
  | ok u =>
      have hall := demand_strict_eq_ok_iff.mp hdemand
      refine iff_of_false nofun ?_
      rintro ⟨name, hname, hnone⟩
      obtain ⟨text, htext⟩ := hall name hname
      exact hnone text htext
  | error e =>
      refine iff_of_true ⟨e, rfl⟩ ?_
      rcases texts_or_error ctx names with hall | ⟨front, name, back, x, rfl, -, hx⟩
      · rw [demand_strict_eq_ok_iff.mpr hall] at hdemand
        cases hdemand
      · exact ⟨name, by simp, by simp [hx]⟩

/-! ## Computations that demand texts -/

variable {α β : Type}

/-- What a computation comes to: `a`, unless the texts of the names are demanded in vain. -/
def Yields (ctx : Context) (mode : Expansion) (names : List String) (x : Except ExpandError α)
    (a : α) : Prop :=
  x = (demand ctx mode names).map fun _ => a

theorem yields_ok (ctx : Context) (mode : Expansion) (a : α) : Yields ctx mode [] (.ok a) a :=
  rfl

theorem Yields.bind {front back : List String} {x : Except ExpandError α}
    {f : α → Except ExpandError β} {a : α} {b : β} (hx : Yields ctx mode front x a)
    (hf : Yields ctx mode back (f a) b) : Yields ctx mode (front ++ back) (x >>= f) b := by
  unfold Yields at hx hf ⊢
  rw [hx, demand_append]
  cases demand ctx mode front with
  | ok u => exact hf
  | error e => rfl

theorem Yields.map {names : List String} {x : Except ExpandError α} {a : α}
    (h : Yields ctx mode names x a) (f : α → β) : Yields ctx mode names (x.map f) (f a) := by
  unfold Yields at h ⊢
  rw [h]
  cases demand ctx mode names <;> rfl

/-- A computation that has come to something has come to what it yields. -/
theorem Yields.eq_of_ok {names : List String} {x : Except ExpandError α} {a b : α}
    (h : Yields ctx mode names x a) (hx : x = .ok b) : b = a := by
  rw [Yields, hx] at h
  cases hdemand : demand ctx mode names with
  | ok u =>
      rw [hdemand] at h
      cases h
      rfl
  | error e =>
      rw [hdemand] at h
      cases h

theorem Yields.lenient {names : List String} {x : Except ExpandError α} {a : α}
    (h : Yields ctx .lenient names x a) : x = .ok a := by
  rw [h, demand_lenient]
  rfl

theorem Yields.strict_ok_iff {names : List String} {x : Except ExpandError α} {a : α}
    (h : Yields ctx .strict names x a) :
    x = .ok a ↔ ∀ name ∈ names, ∃ text, ctx.getText name = .ok text := by
  rw [← demand_strict_eq_ok_iff, h]
  cases demand ctx .strict names <;> simp [Except.map]

theorem Yields.strict_fails_iff {names : List String} {x : Except ExpandError α} {a : α}
    (h : Yields ctx .strict names x a) :
    (∃ e, x = .error e) ↔ ∃ name ∈ names, ∀ text, ctx.getText name ≠ .ok text := by
  rw [← demand_strict_fails_iff, h]
  simp only [Except.map_eq_error_iff]

/-! ## Templates -/

theorem yields_piece (p : Piece) :
    Yields ctx mode p.name?.toList (p.expand ctx mode) (p.filled ctx) := by
  cases p with
  | literal c => exact yields_ok ctx mode [c]
  | «variable» name =>
      unfold Yields
      rcases ctx.getText_cases (String.ofList name) with ⟨text, htext, hread⟩ | ⟨htext, e, hread⟩
      · cases mode <;>
          simp [Piece.name?, Piece.expand, Piece.filled, demand, htext, hread, Except.map]
      · cases mode <;>
          simp [Piece.name?, Piece.expand, Piece.filled, demand, htext, hread, Except.map]

theorem yields_expandAll (ps : List Piece) :
    Yields ctx mode (ps.filterMap Piece.name?) (expandAll ctx mode ps)
      (ps.flatMap (Piece.filled ctx)) := by
  induction ps with
  | nil => exact yields_ok ctx mode []
  | cons p rest ih =>
      have hnames : (p :: rest).filterMap Piece.name? =
          p.name?.toList ++ rest.filterMap Piece.name? := by
        rw [List.filterMap_cons]
        cases p.name? <;> rfl
      have hbind : expandAll ctx mode (p :: rest) =
          p.expand ctx mode >>= fun front => (expandAll ctx mode rest).map (front ++ ·) := by
        rw [expandAll]
        cases p.expand ctx mode with
        | error e => rfl
        | ok front => cases expandAll ctx mode rest <;> rfl
      rw [hnames, hbind, List.flatMap_cons]
      exact (yields_piece p).bind (ih.map _)

/-- Expanding a template demands the texts of its variables. -/
theorem yields_expand (template : String) :
    Yields ctx mode (names template) (expand ctx mode template) (filledText ctx template) := by
  rw [names_eq]
  exact (yields_expandAll _).map _

/-- A template without variables comes to itself. -/
theorem filledText_of_names {s : String} (h : names s = []) : filledText ctx s = s := by
  have hliteral : (pieces s.toList).flatMap (Piece.filled ctx) =
      (pieces s.toList).flatMap Piece.source := by
    apply List.flatMap_congr
    intro p hp
    cases p with
    | literal c => rfl
    | «variable» name =>
        have hname : String.ofList name ∈ names s := List.mem_filterMap.mpr ⟨_, hp, rfl⟩
        rw [h] at hname
        cases hname
  rw [filledText, hliteral, flatMap_source_pieces, String.ofList_toList]

theorem expand_of_names {s : String} (h : names s = []) : expand ctx mode s = .ok s := by
  have hyields : Yields ctx mode (names s) (expand ctx mode s) (filledText ctx s) := yields_expand s
  rw [h, filledText_of_names h] at hyields
  exact hyields

theorem yields_expandOption (template : Option String) :
    Yields ctx mode (template.toList.flatMap names) (expandOption ctx mode template)
      (template.map (filledText ctx)) := by
  cases template with
  | none => exact yields_ok ctx mode none
  | some s =>
      rw [Option.toList_some, List.flatMap_singleton]
      exact (yields_expand s).map some

/-! ## Maps -/

theorem yields_mapEntries {α β : Type} {reads : α → List String} {f : α → Except ExpandError β}
    {g : α → β} (h : ∀ a, Yields ctx mode (reads a) (f a) (g a)) (l : List (String × α)) :
    Yields ctx mode (l.flatMap fun e => reads e.2) (KeyMap.mapEntries (fun _ => f) l)
      (l.map fun e => (e.1, g e.2)) := by
  induction l with
  | nil => exact yields_ok ctx mode []
  | cons e rest ih =>
      have hbind : KeyMap.mapEntries (fun _ => f) (e :: rest) =
          f e.2 >>= fun b => (KeyMap.mapEntries (fun _ => f) rest).map ((e.1, b) :: ·) := by
        rw [KeyMap.mapEntries]
        cases f e.2 with
        | error x => rfl
        | ok b => cases KeyMap.mapEntries (fun _ => f) rest <;> rfl
      rw [hbind, List.flatMap_cons, List.map_cons]
      exact (h e.2).bind (ih.map _)

/-- Computing the values of a map one by one demands what each of them demands. -/
theorem yields_mapM {reads : α → List String} {f : α → Except ExpandError β} {g : α → β}
    (h : ∀ a, Yields ctx mode (reads a) (f a) (g a)) (m : KeyMap α) :
    Yields ctx mode (m.vals.flatMap reads) (m.mapM fun _ => f) (m.map g) := by
  have hentries := yields_mapEntries h m.entries
  rw [Yields, ← KeyMap.map_entries_mapM] at hentries
  rw [Yields, KeyMap.vals, List.flatMap_map]
  cases hm : m.mapM fun _ => f <;>
    cases hdemand : demand ctx mode (m.entries.flatMap fun e => reads e.2) <;>
      rw [hm, hdemand] at hentries
  · exact congrArg Except.error (Except.error.inj hentries)
  · cases hentries
  · cases hentries
  · exact congrArg Except.ok (KeyMap.ext_entries (Except.ok.inj hentries))

theorem yields_expandMap (m : KeyMap String) :
    Yields ctx mode (m.vals.flatMap names) (expandMap ctx mode m) (m.map (filledText ctx)) :=
  yields_mapM yields_expand m

end Template

end Conformance
