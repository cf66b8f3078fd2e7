import Conformance.Proofs.Template
import Mathlib.Data.List.Chain

/-!
# How templates are cut

Which pieces a template is cut into, said without the way in which the cutting is done. Pieces are
well cut when every variable has a name and nothing that could go on with a name stands behind a
variable or a lone dollar sign. `pieces_eq_iff` says that a text is cut into the only well-cut pieces
that are written like it, so every variable is as long as it can be. Two texts are therefore cut
apart unless a name or a lone dollar sign at the end of the first goes on in the second
(`pieces_append_of_not_joined`).
-/

namespace Conformance.Template

/-! ## Well-cut pieces -/

/-- Whether a piece would take in a name that follows it: a variable, or a lone dollar sign. -/
def Piece.isOpen : Piece → Bool
  | .literal c => c == '$'
  | .variable _ => true

/-- Whether a piece is a character that may stand in a name. -/
def Piece.isNamePart : Piece → Bool
  | .literal c => isNameChar c
  | .variable _ => false

/-- Neighbours that are not to be read as one variable. -/
def Piece.Parts (p q : Piece) : Prop := p.isOpen = true → q.isNamePart = false

/-- Pieces each of which ends where it has to. -/
structure WellCut (ps : List Piece) : Prop where
  /-- Every variable has a name. -/
  named : ∀ name, .variable name ∈ ps → name ≠ [] ∧ ∀ c ∈ name, isNameChar c = true
  /-- No piece that could take in a name has one behind it. -/
  parted : ps.IsChain Piece.Parts

theorem wellCut_nil : WellCut [] :=
  ⟨fun _ h => absurd h List.not_mem_nil, List.isChain_nil⟩

theorem wellCut_cons {p : Piece} {ps : List Piece} :
    WellCut (p :: ps) ↔
      (∀ name, p = .variable name → name ≠ [] ∧ ∀ c ∈ name, isNameChar c = true) ∧
        (∀ q ∈ ps.head?, p.Parts q) ∧ WellCut ps := by
  constructor
  · rintro ⟨hnamed, hparted⟩
    obtain ⟨hhead, htail⟩ := List.isChain_cons.mp hparted
    refine ⟨fun name hp => hnamed name ?_, hhead, fun name hname => ?_, htail⟩
    · rw [hp]
      exact List.mem_cons_self
    · exact hnamed name (List.mem_cons_of_mem p hname)
  · rintro ⟨hp, hhead, hnamed, hparted⟩
    refine ⟨fun name hname => ?_, List.isChain_cons.mpr ⟨hhead, hparted⟩⟩
    rcases List.mem_cons.mp hname with heq | hmem
    · exact hp name heq.symm
    · exact hnamed name hmem

theorem wellCut_literal {c : Char} {ps : List Piece} :
    WellCut (.literal c :: ps) ↔
      (c = '$' → ∀ q ∈ ps.head?, q.isNamePart = false) ∧ WellCut ps := by
  rw [wellCut_cons]
  constructor
  · rintro ⟨-, hhead, hps⟩
    exact ⟨fun hd q hq => hhead q hq (by simp [Piece.isOpen, hd]), hps⟩
  · rintro ⟨hhead, hps⟩
    refine ⟨nofun, fun q hq hopen => hhead ?_ q hq, hps⟩
    simpa [Piece.isOpen] using hopen

theorem wellCut_variable {name : List Char} {ps : List Piece} :
    WellCut (.variable name :: ps) ↔
      (name ≠ [] ∧ ∀ c ∈ name, isNameChar c = true) ∧
        (∀ q ∈ ps.head?, q.isNamePart = false) ∧ WellCut ps := by
  rw [wellCut_cons]
  constructor
  · rintro ⟨hname, hhead, hps⟩
    exact ⟨hname name rfl, fun q hq => hhead q hq rfl, hps⟩
  · rintro ⟨hname, hhead, hps⟩
    refine ⟨?_, fun q hq _ => hhead q hq, hps⟩
    rintro _ ⟨⟩
    exact hname

/-- Characters other than dollar signs may stand in front of anything. -/
theorem wellCut_literals {cs : List Char} (h : '$' ∉ cs) {ps : List Piece} :
    WellCut (cs.map .literal ++ ps) ↔ WellCut ps := by
  induction cs with
  | nil => rfl
  | cons c rest ih =>
      obtain ⟨hc, hrest⟩ := List.ne_and_not_mem_of_not_mem_cons h
      rw [List.map_cons, List.cons_append, wellCut_literal, ih hrest]
      simp [Ne.symm hc]

theorem dollar_not_mem_name {name : List Char} (h : ∀ c ∈ name, isNameChar c = true) :
    '$' ∉ name := by
  intro hd
  have hdollar : isNameChar '$' = true := h '$' hd
  revert hdollar
  decide

theorem WellCut.append {ps qs : List Piece} (hps : WellCut ps) (hqs : WellCut qs)
    (h : ∀ p ∈ ps.getLast?, ∀ q ∈ qs.head?, p.Parts q) : WellCut (ps ++ qs) := by
  constructor
  · intro name hname
    rcases List.mem_append.mp hname with hmem | hmem
    · exact hps.named name hmem
    · exact hqs.named name hmem
  · exact List.isChain_append.mpr ⟨hps.parted, hqs.parted, h⟩

/-! ## From texts to pieces -/

theorem flatMap_source_literals (cs : List Char) :
    (cs.map Piece.literal).flatMap Piece.source = cs := by
  induction cs with
  | nil => rfl
  | cons c rest ih =>
      rw [List.map_cons, List.flatMap_cons, ih]
      rfl

/-- What cutting a text yields: the characters of a name at its front, and well-cut pieces that do not
go on with that name. -/
structure Cut (cs name : List Char) (ps : List Piece) : Prop where
  source : name ++ ps.flatMap Piece.source = cs
  named : ∀ c ∈ name, isNameChar c = true
  wellCut : WellCut ps
  stops : ∀ q ∈ ps.head?, q.isNamePart = false

theorem cut_split (cs : List Char) : Cut cs (split cs).1 (split cs).2 := by
  induction cs with
  | nil => exact ⟨rfl, fun _ h => absurd h List.not_mem_nil, wellCut_nil, fun _ h => nomatch h⟩
  | cons c rest ih =>
      obtain ⟨hsource, hnamed, hcut, hstops⟩ := ih
      unfold split
      generalize split rest = cut at hsource hnamed hcut hstops ⊢
      obtain ⟨name, ps⟩ := cut
      dsimp only at hsource hnamed hcut hstops ⊢
      by_cases hc : isNameChar c = true
      · rw [if_pos hc]
        exact ⟨congrArg (c :: ·) hsource, List.forall_mem_cons.mpr ⟨hc, hnamed⟩, hcut, hstops⟩
      · rw [if_neg hc]
        by_cases hvar : c = '$' ∧ name ≠ []
        · rw [if_pos hvar]
          refine ⟨?_, fun _ h => absurd h List.not_mem_nil,
            wellCut_variable.mpr ⟨⟨hvar.2, hnamed⟩, hstops, hcut⟩, ?_⟩
          · rw [List.nil_append, List.flatMap_cons, ← hsource, hvar.1]
            rfl
          · intro q hq
            cases hq
            rfl
        · rw [if_neg hvar]
          refine ⟨?_, fun _ h => absurd h List.not_mem_nil, ?_, ?_⟩
          · rw [List.nil_append, List.flatMap_cons, List.flatMap_append, flatMap_source_literals,
              hsource]
            rfl
          · rw [wellCut_literal, wellCut_literals (dollar_not_mem_name hnamed)]
            refine ⟨fun hd q hq => ?_, hcut⟩
            have hname : name = [] := by
              by_contra hne
              exact hvar ⟨hd, hne⟩
            rw [hname] at hq
            exact hstops q hq
          · intro q hq
            cases hq
            simpa [Piece.isNamePart] using hc

/-- A text is cut into pieces that are written like it, with nothing lost or doubled. -/
theorem flatMap_source_pieces (cs : List Char) : (pieces cs).flatMap Piece.source = cs := by
  have hcut := cut_split cs
  rw [pieces, List.flatMap_append, flatMap_source_literals]
  exact hcut.source

theorem wellCut_pieces (cs : List Char) : WellCut (pieces cs) :=
  (wellCut_literals (dollar_not_mem_name (cut_split cs).named)).mpr (cut_split cs).wellCut

/-! ## From pieces to texts -/

/-- Well-cut pieces are read back from the text that they are written as: first the characters of a
name, then the rest. -/
theorem split_source {ps : List Piece} (h : WellCut ps) :
    (split (ps.flatMap Piece.source)).1.map Piece.literal ++ (split (ps.flatMap Piece.source)).2 =
      ps := by
  induction ps with
  | nil => rfl
  | cons p rest ih =>
      obtain ⟨hown, hhead, htail⟩ := wellCut_cons.mp h
      have hrest := ih htail
      have hcut := cut_split (rest.flatMap Piece.source)
      rw [List.flatMap_cons]
      generalize hsplit : split (rest.flatMap Piece.source) = cut at hrest hcut
      obtain ⟨name, qs⟩ := cut
      dsimp only at hrest hcut
      -- Behind a piece that could take in a name, the rest does not begin with one.
      have hstop : p.isOpen = true → name = [] := by
        intro hopen
        cases name with
        | nil => rfl
        | cons c more =>
            have hpart : Piece.isNamePart (.literal c) = false := by
              apply hhead _ _ hopen
              rw [← hrest]
              rfl
            have hc : isNameChar c = true := hcut.named c List.mem_cons_self
            rw [Piece.isNamePart, hc] at hpart
            cases hpart
      cases p with
      | literal c =>
          show (split (c :: rest.flatMap Piece.source)).1.map Piece.literal ++
            (split (c :: rest.flatMap Piece.source)).2 = _
          rw [split, hsplit]
          dsimp only
          by_cases hc : isNameChar c = true
          · rw [if_pos hc, List.map_cons, List.cons_append, hrest]
          · have hlone : ¬ (c = '$' ∧ name ≠ []) := by
              rintro ⟨hd, hne⟩
              exact hne (hstop (by simp [Piece.isOpen, hd]))
            rw [if_neg hc, if_neg hlone, List.map_nil, List.nil_append, hrest]
      | «variable» own =>
          obtain ⟨hne, hchars⟩ := hown own rfl
          have hnone : name = [] := hstop rfl
          subst hnone
          have hbehind : split (own ++ rest.flatMap Piece.source) = (own, qs) := by
            rw [split_name_append hchars, hsplit, List.append_nil]
          show (split ('$' :: (own ++ rest.flatMap Piece.source))).1.map Piece.literal ++
            (split ('$' :: (own ++ rest.flatMap Piece.source))).2 = _
          rw [split_dollar hbehind, if_neg hne, ← hrest]
          rfl

theorem pieces_flatMap_source {ps : List Piece} (h : WellCut ps) :
    pieces (ps.flatMap Piece.source) = ps :=
  split_source h

/-- A text is cut into the only well-cut pieces that are written like it. -/
theorem pieces_eq_iff {cs : List Char} {ps : List Piece} :
    pieces cs = ps ↔ ps.flatMap Piece.source = cs ∧ WellCut ps := by
  constructor
  · rintro rfl
    exact ⟨flatMap_source_pieces cs, wellCut_pieces cs⟩
  · rintro ⟨rfl, hcut⟩
    exact pieces_flatMap_source hcut

/-! ## Texts behind one another -/

/-- Whether a text ends in a dollar sign and the characters of a name, or none. -/
def EndsOpen (cs : List Char) : Prop :=
  ∃ front name, cs = front ++ '$' :: name ∧ ∀ c ∈ name, isNameChar c = true

/-- Whether a text begins with a character that may stand in a name. -/
def BeginsNamed (cs : List Char) : Prop := ∃ c rest, cs = c :: rest ∧ isNameChar c = true

theorem endsOpen_of_getLast? {cs : List Char} {p : Piece} (hp : p ∈ (pieces cs).getLast?)
    (hopen : p.isOpen = true) : EndsOpen cs := by
  have hlast : pieces cs = (pieces cs).dropLast ++ [p] :=
    (List.dropLast_append_getLast? p hp).symm
  have hsource : cs = (pieces cs).dropLast.flatMap Piece.source ++ p.source := by
    conv_lhs => rw [← flatMap_source_pieces cs, hlast]
    simp
  cases p with
  | literal c =>
      have hc : c = '$' := by simpa [Piece.isOpen] using hopen
      subst hc
      exact ⟨_, [], hsource, fun _ h => absurd h List.not_mem_nil⟩
  | «variable» name =>
      refine ⟨_, name, hsource, ((wellCut_pieces cs).named name ?_).2⟩
      rw [hlast]
      simp

theorem beginsNamed_of_head? {cs : List Char} {q : Piece} (hq : q ∈ (pieces cs).head?)
    (hpart : q.isNamePart = true) : BeginsNamed cs := by
  cases q with
  | literal c =>
      obtain ⟨rest, hrest⟩ : ∃ rest, pieces cs = .literal c :: rest := List.head?_eq_some_iff.mp hq
      refine ⟨c, rest.flatMap Piece.source, ?_, hpart⟩
      rw [← flatMap_source_pieces cs, hrest]
      rfl
  | «variable» name => cases hpart

/-- Two texts are cut apart unless a name goes on from the first into the second. -/
theorem pieces_append_of_not_joined {cs ds : List Char} (h : ¬ (EndsOpen cs ∧ BeginsNamed ds)) :
    pieces (cs ++ ds) = pieces cs ++ pieces ds := by
  rw [pieces_eq_iff]
  constructor
  · rw [List.flatMap_append, flatMap_source_pieces, flatMap_source_pieces]
  · apply (wellCut_pieces cs).append (wellCut_pieces ds)
    intro p hp q hq hopen
    rw [← Bool.not_eq_true]
    intro hpart
    exact h ⟨endsOpen_of_getLast? hp hopen, beginsNamed_of_head? hq hpart⟩

end Conformance.Template
