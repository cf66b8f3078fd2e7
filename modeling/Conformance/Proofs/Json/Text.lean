import Conformance.Json.Draft
import Conformance.Proofs.Json.Numeral
import Mathlib.Data.List.Forall2
import Mathlib.Tactic.IntervalCases

/-!
# Reading back JSON text

The text of a value, scanned, gives the value back as a draft without faults. `Json.Scans` says so of
one value, in front of any text that cannot be mistaken for more of a numeral. It is shown for each kind
of value from its parts: strings (`scans_string`), whole numbers (`scans_nat`), arrays and objects
(`scans_array`, `scans_object`). Numbers may be read as others; `Json.ScansAs` says as which draft a value
is scanned, and arrays and objects are scanned as the drafts of their parts (`scansAs_array`,
`scansAs_object`).

The scanner is bounded by the length of the text. Each step consumes a character at least, so the bound
is never the reason to stop.
-/

namespace Conformance.Json

/-! ## Values as drafts -/

mutual

/-- A value as a draft without faults. -/
def draft : Json → Draft
  | .null => .null
  | .bool b => .bool b
  | .number n => .number (.ok n) none
  | .string s => .string (.ok s) none
  | .array items => .array (drafts items) none
  | .object members => .object (memberDrafts members) none

/-- Values as drafts. -/
def drafts : List Json → List Draft
  | [] => []
  | v :: rest => v.draft :: drafts rest

/-- Members as drafts. -/
def memberDrafts : List (String × Json) → List (Except Problem String × Draft)
  | [] => []
  | (k, v) :: rest => (.ok k, v.draft) :: memberDrafts rest

end

/-! ## String literals -/

/-- A character as it stands in a literal is one piece: the character, or its code. -/
theorem scanPieces_escapeChar (c : Char) : ∃ p, (p = .char c ∨ p = .unit c.toNat) ∧ ∀ tail,
    scanPieces (escapeChar c ++ tail) = (p :: (scanPieces tail).1, (scanPieces tail).2) := by
  by_cases hcontrol : c.toNat < 0x20
  · obtain ⟨n, hn⟩ : ∃ n, c.toNat = n := ⟨_, rfl⟩
    have hc : c = Char.ofNat n := by
      rw [← hn, Char.ofNat_toNat]
    rw [hn] at hcontrol
    subst hc
    clear hn
    interval_cases n <;>
      first
        | exact ⟨_, .inl rfl, fun tail => rfl⟩
        | exact ⟨_, .inr rfl, fun tail => rfl⟩
  by_cases hquote : c = '"'
  · subst hquote
    exact ⟨_, .inl rfl, fun tail => rfl⟩
  by_cases hslash : c = '\\'
  · subst hslash
    exact ⟨_, .inl rfl, fun tail => rfl⟩
  have hplain : escapeChar c = [c] := by
    unfold escapeChar
    split
    · exact absurd rfl hquote
    · exact absurd rfl hslash
    · exact absurd (by decide) hcontrol
    · exact absurd (by decide) hcontrol
    · exact absurd (by decide) hcontrol
    · rw [if_neg (by omega), if_neg (by omega), if_neg (by omega), if_neg hcontrol]
  refine ⟨_, .inl rfl, fun tail => ?_⟩
  rw [hplain, List.singleton_append]
  conv_lhs => unfold scanPieces
  simp [hslash, hcontrol]

/-- A code that is not one of a surrogate is read as its character. -/
theorem joinPieces_unit (c : Char) (ps : List Piece) :
    joinPieces none (.unit c.toNat :: ps) = (joinPieces none ps).map (c :: ·) := by
  have hvalid : c.toNat < 0xD800 ∨ 0xDFFF < c.toNat := by
    rcases c.valid with h | h
    · exact .inl h
    · exact .inr h.1
  have hlow : isLowSurrogate c.toNat = false := by
    simp [isLowSurrogate]
    omega
  have hhigh : isHighSurrogate c.toNat = false := by
    simp [isHighSurrogate]
    omega
  conv_lhs => unfold joinPieces
  simp [hlow, hhigh, Char.ofNat_toNat]

/-- A closed literal is read as its text. -/
theorem scanPieces_literal (cs rest : List Char) : ∃ ps,
    scanPieces (cs.flatMap escapeChar ++ '"' :: rest) = (ps, .ok rest) ∧
      joinPieces none ps = .ok cs := by
  induction cs with
  | nil => exact ⟨[], rfl, rfl⟩
  | cons c cs ih =>
      obtain ⟨ps, hscan, hjoin⟩ := ih
      obtain ⟨p, hp, hpiece⟩ := scanPieces_escapeChar c
      refine ⟨p :: ps, ?_, ?_⟩
      · rw [List.flatMap_cons, List.append_assoc, hpiece, hscan]
      · rcases hp with rfl | rfl
        · rw [joinPieces, hjoin]
          rfl
        · rw [joinPieces_unit, hjoin]
          rfl

theorem scanString_literal (s : String) (rest : List Char) :
    scanString (s.toList.flatMap escapeChar ++ '"' :: rest) = (.ok s, .ok rest) := by
  obtain ⟨ps, hscan, hjoin⟩ := scanPieces_literal s.toList rest
  rw [scanString, hscan]
  simp only [faultOf, hjoin]
  rw [Except.map, String.ofList_toList]

/-! ## What a value begins with -/

theorem skipSpace_cons {c : Char} (h : Draft.isSpace c = false) (cs : List Char) :
    Draft.skipSpace (c :: cs) = c :: cs := by
  simp [Draft.skipSpace, h]

theorem scan_quote (fuel : Nat) (cs : List Char) :
    Draft.scan (fuel + 1) ('"' :: cs) =
      (.string (scanString cs).1 (faultOf (scanString cs).2), (scanString cs).2) := rfl

theorem scan_bracket (fuel : Nat) {c : Char} (cs : List Char) (hspace : Draft.isSpace c = false)
    (hc : c ≠ ']') : Draft.scan (fuel + 1) ('[' :: c :: cs) =
      (.array (Draft.scanItems fuel (c :: cs)).1 (faultOf (Draft.scanItems fuel (c :: cs)).2),
        (Draft.scanItems fuel (c :: cs)).2) := by
  unfold Draft.scan
  rw [skipSpace_cons rfl]
  simp only [skipSpace_cons hspace]
  split
  next hend => exact absurd (List.cons.inj hend).1 hc
  next hnone => cases hnone
  · rfl

theorem scan_brace (fuel : Nat) (cs : List Char) :
    Draft.scan (fuel + 1) ('\x7b' :: '"' :: cs) =
      (.object (Draft.scanMembers fuel ('"' :: cs)).1
        (faultOf (Draft.scanMembers fuel ('"' :: cs)).2),
        (Draft.scanMembers fuel ('"' :: cs)).2) := rfl

theorem scan_numeral (fuel : Nat) {c : Char} (cs : List Char)
    (hc : c = '-' ∨ Text.isDigit c = true) : Draft.scan (fuel + 1) (c :: cs) =
      (.number (scanNumber (c :: cs)).1 (faultOf (scanNumber (c :: cs)).2),
        (scanNumber (c :: cs)).2) := by
  rcases hc with rfl | hdigit
  · rfl
  · obtain ⟨n, hn, hlow, hhigh⟩ : ∃ n, c = Char.ofNat n ∧ 48 ≤ n ∧ n ≤ 57 := by
      simp only [Text.isDigit, Bool.and_eq_true, decide_eq_true_eq] at hdigit
      exact ⟨c.toNat, (Char.ofNat_toNat c).symm, hdigit.1, hdigit.2⟩
    subst hn
    interval_cases n <;> rfl

/-! ## Scanning values -/

/-- A value whose text is scanned as a draft. -/
structure ScansAs (v : Json) (d : Draft) : Prop where
  /-- It cannot be mistaken for a space or the end of an array. -/
  begins : ∃ c cs, v.chars = c :: cs ∧ Draft.isSpace c = false ∧ c ≠ ']'
  scan : ∀ {fuel : Nat} {rest : List Char}, v.chars.length ≤ fuel → Stops rest →
    Draft.scan fuel (v.chars ++ rest) = (d, .ok rest)

/-- A value whose text gives it back as a draft without faults. -/
abbrev Scans (v : Json) : Prop := ScansAs v v.draft

theorem ScansAs.of_succ {v : Json} {d : Draft}
    (begins : ∃ c cs, v.chars = c :: cs ∧ Draft.isSpace c = false ∧ c ≠ ']')
    (scan : ∀ {fuel : Nat} {rest : List Char}, v.chars.length ≤ fuel + 1 → Stops rest →
      Draft.scan (fuel + 1) (v.chars ++ rest) = (d, .ok rest)) : ScansAs v d where
  begins := begins
  scan {fuel rest} hfuel hrest := by
    cases fuel with
    | zero =>
        obtain ⟨c, cs, hcs, -⟩ := begins
        rw [hcs] at hfuel
        cases hfuel
    | succ fuel => exact scan hfuel hrest

theorem scans_null : Scans .null :=
  .of_succ ⟨'n', _, rfl, rfl, by decide⟩ fun _ _ => rfl

theorem scans_bool (b : Bool) : Scans (.bool b) := by
  cases b with
  | false => exact .of_succ ⟨'f', _, rfl, rfl, by decide⟩ fun _ _ => rfl
  | true => exact .of_succ ⟨'t', _, rfl, rfl, by decide⟩ fun _ _ => rfl

theorem quoteChars_append (cs rest : List Char) :
    quoteChars cs ++ rest = '"' :: (cs.flatMap escapeChar ++ '"' :: rest) := by
  simp [quoteChars]

theorem scans_string (s : String) : Scans (.string s) := by
  refine .of_succ ⟨'"', _, rfl, rfl, by decide⟩ fun {fuel rest} _ _ => ?_
  have hchars : (Json.string s).chars = quoteChars s.toList := rfl
  rw [hchars, quoteChars_append, scan_quote, scanString_literal]
  rfl

theorem scansAs_number {n : Number} {r : Except Problem Number} (h : n.ReadsAs r) :
    ScansAs (.number n) (.number r none) := by
  obtain ⟨c, cs, hcs, hc⟩ := h.begins
  have hother : Draft.isSpace c = false ∧ c ≠ ']' := by
    rcases hc with rfl | hdigit
    · decide
    · refine ⟨?_, by rintro rfl; exact absurd hdigit (by decide)⟩
      rw [Draft.isSpace, Bool.eq_false_iff]
      intro hspace
      simp only [Bool.or_eq_true, beq_iff_eq] at hspace
      rcases hspace with ((rfl | rfl) | rfl) | rfl <;> exact absurd hdigit (by decide)
  refine .of_succ ⟨c, cs, hcs, hother⟩ fun {fuel rest} _ hrest => ?_
  have hchars : (Json.number n).chars = n.chars := rfl
  have hscan := h.scan rest hrest
  rw [hcs, List.cons_append] at hscan
  rw [hchars, hcs, List.cons_append, scan_numeral fuel _ hc, hscan]
  rfl

theorem scans_nat {n : Nat} (h : n < 2 ^ 64) : Scans (.nat n) := scansAs_number (readsBack_nat h)

/-! ## Arrays and objects -/

theorem stops_of_eq {c : Char} (h : c = ',' ∨ c = ']' ∨ c = '\x7d') (rest : List Char) :
    Stops (c :: rest) := by
  rintro _ ⟨⟩
  rcases h with rfl | rfl | rfl <;> decide

theorem itemChars_cons_cons (v w : Json) (items : List Json) :
    itemChars (v :: w :: items) = v.chars ++ ',' :: itemChars (w :: items) := rfl

theorem memberChars_cons_cons (name : String) (v : Json) (m : String × Json)
    (members : List (String × Json)) : memberChars ((name, v) :: m :: members) =
      quoteChars name.toList ++ ':' :: (v.chars ++ ',' :: memberChars (m :: members)) := rfl

theorem scanItems_last {fuel : Nat} {cs rest : List Char} {d : Draft}
    (h : Draft.scan fuel cs = (d, .ok (']' :: rest))) :
    Draft.scanItems (fuel + 1) cs = ([d], .ok rest) := by
  unfold Draft.scanItems
  rw [h]
  rfl

theorem scanItems_next {fuel : Nat} {cs rest : List Char} {d : Draft}
    (h : Draft.scan fuel cs = (d, .ok (',' :: rest))) : Draft.scanItems (fuel + 1) cs =
      (d :: (Draft.scanItems fuel rest).1, (Draft.scanItems fuel rest).2) := by
  conv_lhs => unfold Draft.scanItems
  rw [h]
  rfl

theorem scanMembers_last {fuel : Nat} {cs rest : List Char} {d : Draft} (name : String)
    (h : Draft.scan fuel cs = (d, .ok ('\x7d' :: rest))) :
    Draft.scanMembers (fuel + 1) (quoteChars name.toList ++ ':' :: cs) =
      ([(.ok name, d)], .ok rest) := by
  have hname := scanString_literal name (':' :: cs)
  rw [quoteChars_append]
  conv_lhs => unfold Draft.scanMembers
  simp only [skipSpace_cons (show Draft.isSpace '"' = false from rfl),
    skipSpace_cons (show Draft.isSpace ':' = false from rfl), hname, h]
  rfl

theorem scanMembers_next {fuel : Nat} {cs rest : List Char} {d : Draft} (name : String)
    (h : Draft.scan fuel cs = (d, .ok (',' :: rest))) :
    Draft.scanMembers (fuel + 1) (quoteChars name.toList ++ ':' :: cs) =
      ((.ok name, d) :: (Draft.scanMembers fuel rest).1, (Draft.scanMembers fuel rest).2) := by
  have hname := scanString_literal name (':' :: cs)
  rw [quoteChars_append]
  conv_lhs => unfold Draft.scanMembers
  simp only [skipSpace_cons (show Draft.isSpace '"' = false from rfl),
    skipSpace_cons (show Draft.isSpace ':' = false from rfl), hname, h]
  rfl

/-- Items are scanned one after the other. -/
theorem scanItems_itemChars {items : List Json} {ds : List Draft} (hne : items ≠ [])
    (h : List.Forall₂ ScansAs items ds) {fuel : Nat} (hfuel : (itemChars items).length ≤ fuel)
    (rest : List Char) : Draft.scanItems fuel (itemChars items ++ rest) = (ds, .ok rest) := by
  induction h generalizing fuel with
  | nil => exact absurd rfl hne
  | @cons v d items ds hv hitems ih =>
      cases hitems with
      | nil =>
          rw [itemChars, List.length_append, List.length_singleton] at hfuel
          obtain ⟨k, rfl⟩ := Nat.exists_eq_add_of_le' (show 1 ≤ fuel by omega)
          rw [itemChars, List.append_assoc, List.singleton_append,
            scanItems_last (hv.scan (by omega) (stops_of_eq (.inr (.inl rfl)) rest))]
      | cons hw hitems =>
          rw [itemChars_cons_cons, List.length_append, List.length_cons] at hfuel
          obtain ⟨k, rfl⟩ := Nat.exists_eq_add_of_le' (show 1 ≤ fuel by omega)
          rw [itemChars_cons_cons, List.append_assoc, List.cons_append,
            scanItems_next (hv.scan (by omega) (stops_of_eq (.inl rfl) _)),
            ih (by simp) (by omega)]

/-- A member is scanned as its name and a draft of its value. -/
def MemberScansAs (m : String × Json) (e : Except Problem String × Draft) : Prop :=
  e.1 = .ok m.1 ∧ ScansAs m.2 e.2

theorem scanMembers_memberChars {members : List (String × Json)}
    {es : List (Except Problem String × Draft)} (hne : members ≠ [])
    (h : List.Forall₂ MemberScansAs members es) {fuel : Nat}
    (hfuel : (memberChars members).length ≤ fuel) (rest : List Char) :
    Draft.scanMembers fuel (memberChars members ++ rest) = (es, .ok rest) := by
  induction h generalizing fuel with
  | nil => exact absurd rfl hne
  | @cons m e members es hm hmembers ih =>
      obtain ⟨name, v⟩ := m
      obtain ⟨key, d⟩ := e
      obtain ⟨rfl, hv⟩ := hm
      cases hmembers with
      | nil =>
          simp only [memberChars, List.length_append, List.length_cons, List.length_nil] at hfuel
          obtain ⟨k, rfl⟩ := Nat.exists_eq_add_of_le' (show 1 ≤ fuel by omega)
          have hscan := hv.scan (show v.chars.length ≤ k by omega)
            (stops_of_eq (.inr (.inr rfl)) rest)
          rw [memberChars, List.append_assoc, List.cons_append, List.append_assoc,
            List.singleton_append, scanMembers_last name hscan]
      | @cons m' e' members es hm' hmembers =>
          simp only [memberChars_cons_cons, List.length_append, List.length_cons] at hfuel
          obtain ⟨k, rfl⟩ := Nat.exists_eq_add_of_le' (show 1 ≤ fuel by omega)
          have hscan := hv.scan (show v.chars.length ≤ k by omega)
            (stops_of_eq (.inl rfl) (memberChars (m' :: members) ++ rest))
          rw [memberChars_cons_cons, List.append_assoc, List.cons_append, List.append_assoc,
            List.cons_append, scanMembers_next name hscan, ih (by simp) (by omega)]

theorem scansAs_array {items : List Json} {ds : List Draft} (h : List.Forall₂ ScansAs items ds) :
    ScansAs (.array items) (.array ds none) := by
  refine .of_succ ⟨'[', _, rfl, rfl, by decide⟩ fun {fuel rest} hfuel hrest => ?_
  cases h with
  | nil => rfl
  | @cons v d items ds hv hitems =>
      obtain ⟨c, cs, hcs, hspace, hc⟩ := hv.begins
      have hbegin : ∃ cs', itemChars (v :: items) ++ rest = c :: cs' := by
        cases items <;> simp [itemChars, hcs]
      obtain ⟨cs', hcs'⟩ := hbegin
      have hchars : (Json.array (v :: items)).chars = '[' :: itemChars (v :: items) := rfl
      have hscan := scanItems_itemChars (by simp) (.cons hv hitems)
        (Nat.le_of_succ_le_succ hfuel) rest
      rw [hcs'] at hscan
      rw [hchars, List.cons_append, hcs', scan_bracket fuel cs' hspace hc, hscan]
      rfl

theorem scansAs_object {members : List (String × Json)}
    {es : List (Except Problem String × Draft)} (h : List.Forall₂ MemberScansAs members es) :
    ScansAs (.object members) (.object es none) := by
  refine .of_succ ⟨'\x7b', _, rfl, rfl, by decide⟩ fun {fuel rest} hfuel hrest => ?_
  cases h with
  | nil => rfl
  | @cons m e members es hm hmembers =>
      have hbegin : ∃ cs, memberChars (m :: members) ++ rest = '"' :: cs := by
        cases members <;> exact ⟨_, rfl⟩
      obtain ⟨cs, hcs⟩ := hbegin
      have hchars : (Json.object (m :: members)).chars = '\x7b' :: memberChars (m :: members) := rfl
      have hscan := scanMembers_memberChars (by simp) (.cons hm hmembers)
        (Nat.le_of_succ_le_succ hfuel) rest
      rw [hcs] at hscan
      rw [hchars, List.cons_append, hcs, scan_brace, hscan]
      rfl

theorem scans_array {items : List Json} (h : ∀ v ∈ items, Scans v) : Scans (.array items) := by
  refine scansAs_array ?_
  induction items with
  | nil => exact .nil
  | cons v items ih =>
      obtain ⟨hv, hitems⟩ := List.forall_mem_cons.mp h
      exact .cons hv (ih hitems)

theorem scans_object {members : List (String × Json)} (h : ∀ m ∈ members, Scans m.2) :
    Scans (.object members) := by
  refine scansAs_object ?_
  induction members with
  | nil => exact .nil
  | cons m members ih =>
      obtain ⟨hm, hmembers⟩ := List.forall_mem_cons.mp h
      exact .cons ⟨rfl, hm⟩ (ih hmembers)

/-! ## Whole texts -/

/-- What is read of the text of a value is what is read of its draft. -/
theorem read_render_eq {α : Type} (read : Draft.Reader α) {v : Json} {d : Draft}
    (h : ScansAs v d) : Json.read read v.render = read Draft.depthLimit d := by
  have hall := h.scan (Nat.le_succ v.chars.length) (show Stops [] from nofun)
  rw [List.append_nil] at hall
  unfold Json.read readChars render
  rw [String.toList_ofList, hall]
  dsimp only
  cases read Draft.depthLimit d <;> rfl

/-- What reads a value as a draft reads the text of the value. -/
theorem read_render {α : Type} {read : Draft.Reader α} {v : Json} {a : α} (hscan : Scans v)
    (hread : read Draft.depthLimit v.draft = .ok a) : Json.read read v.render = .ok a :=
  (read_render_eq read hscan).trans hread

end Conformance.Json
