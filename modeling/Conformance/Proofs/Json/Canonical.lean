import Conformance.Proofs.Except
import Conformance.Proofs.Json.Numeral
import Conformance.Json.Draft
import Conformance.Proofs.KeyMap

/-!
# Values as they are read

What reading a text can make of it: whole numbers in a range, and objects with their members in the
order of their names (`Canonical`). `canonical_parse` says that every value of a text is such a value.
-/

namespace Conformance.Json

open Draft

/-! ## Numbers in range -/

/-- A whole number lies in the range that is read exactly. -/
def Number.InRange : Number → Prop
  | .int i => -2 ^ 63 ≤ i ∧ i < 2 ^ 64
  | .float _ => True

namespace Numeral

theorem gather_le {s : Nat} (cs : List Char) (h : s ≤ significandLimit) :
    (gather s cs).1 ≤ significandLimit := by
  induction cs generalizing s with
  | nil => exact h
  | cons c rest ih =>
      unfold gather
      dsimp only
      split
      next => exact h
      next hnext => exact ih (Nat.le_of_not_lt hnext)

theorem signed_inRange {negative : Bool} {x : Option Binary64} {n : Number}
    (h : signed negative x = .ok n) : n.InRange := by
  cases x with
  | none => cases h
  | some x =>
      cases h
      trivial

theorem value_inRange {negative : Bool} {whole : List Char} {fraction : Option (List Char)}
    {exponent : Option (Bool × List Char)} {n : Number}
    (h : value negative whole fraction exponent = .ok n) : n.InRange := by
  have hlimit := gather_le whole (Nat.zero_le significandLimit)
  unfold value at h
  generalize gather 0 whole = gathered at h hlimit
  obtain ⟨s, taken, fits⟩ := gathered
  have hs : s < 2 ^ 64 := Nat.lt_of_le_pred (by decide) hlimit
  dsimp only at h
  split at h
  next =>
    split at h
    next => exact signed_inRange h
    next =>
      split at h
      next =>
        cases h
        exact ⟨by omega, by omega⟩
      next =>
        split at h
        next => exact signed_inRange h
        next hsmall =>
          cases h
          simp only [Bool.or_eq_true, decide_eq_true_eq, not_or, Nat.not_lt, Nat.pow_eq] at hsmall
          exact ⟨by omega, by omega⟩
  next =>
    split at h
    next => exact signed_inRange h
    next =>
      split at h
      next =>
        split at h
        next => cases h
        next =>
          cases h
          trivial
      next => exact signed_inRange h

end Numeral

theorem scanNumber_inRange {cs : List Char} {n : Number} (h : (scanNumber cs).1 = .ok n) :
    n.InRange := by
  rw [Numeral.scanNumber_cut] at h
  unfold Numeral.refused at h
  dsimp only at h
  split at h
  · cases h
  · split at h
    · cases h
    · split at h
      · cases h
      · split at h
        · cases h
        · exact Numeral.value_inRange h

/-! ## Values of arrays and objects -/

/-- Drafts have values if and only if each of them has one. -/
theorem values_eq_ok_iff {depth : Nat} {ds : List Draft} {vs : List Json} :
    values depth ds = .ok vs ↔ List.Forall₂ (fun d v => value depth d = .ok v) ds vs := by
  induction ds generalizing vs with
  | nil =>
      rw [List.forall₂_nil_left_iff, values, Except.ok.injEq]
      exact eq_comm
  | cons d ds ih =>
      rw [List.forall₂_cons_left_iff, values]
      constructor
      · intro h
        obtain ⟨v, hv, h⟩ := Except.bind_eq_ok_iff.mp h
        obtain ⟨vs', hvs', h⟩ := Except.bind_eq_ok_iff.mp h
        cases h
        exact ⟨v, vs', hv, ih.mp hvs', rfl⟩
      · rintro ⟨v, vs', hv, hvs', rfl⟩
        rw [hv, ih.mpr hvs']
        rfl

/-- The same of members. -/
theorem memberValues_eq_ok_iff {depth : Nat} {es : List (Except Problem String × Draft)}
    {ms : List (String × Json)} : memberValues depth es = .ok ms ↔
      List.Forall₂ (fun e m => e.1 = .ok m.1 ∧ value depth e.2 = .ok m.2) es ms := by
  induction es generalizing ms with
  | nil =>
      rw [List.forall₂_nil_left_iff, memberValues, Except.ok.injEq]
      exact eq_comm
  | cons e es ih =>
      obtain ⟨key, d⟩ := e
      rw [List.forall₂_cons_left_iff, memberValues]
      constructor
      · intro h
        obtain ⟨name, hkey, h⟩ := Except.bind_eq_ok_iff.mp h
        obtain ⟨v, hv, h⟩ := Except.bind_eq_ok_iff.mp h
        obtain ⟨ms', hms', h⟩ := Except.bind_eq_ok_iff.mp h
        cases h
        exact ⟨(name, v), ms', ⟨hkey, hv⟩, ih.mp hms', rfl⟩
      · rintro ⟨⟨name, v⟩, ms', ⟨rfl, hv⟩, hms', rfl⟩
        rw [hv, ih.mpr hms']
        rfl

theorem exists_left_of_forall₂ {α β : Type} {R : α → β → Prop} {as : List α} {bs : List β}
    (h : List.Forall₂ R as bs) : ∀ b ∈ bs, ∃ a ∈ as, R a b := by
  induction h with
  | nil => exact List.forall_mem_nil _
  | cons hab _ ih =>
      refine List.forall_mem_cons.mpr ⟨⟨_, List.mem_cons_self, hab⟩, fun b hb => ?_⟩
      obtain ⟨a, ha, hab⟩ := ih b hb
      exact ⟨a, List.mem_cons_of_mem _ ha, hab⟩

/-! ## Values -/

/-- A value as reading makes it. -/
inductive Canonical : Json → Prop
  | null : Canonical .null
  | bool (b : Bool) : Canonical (.bool b)
  | number {n : Number} (h : n.InRange) : Canonical (.number n)
  | string (s : String) : Canonical (.string s)
  | array {items : List Json} (h : ∀ v ∈ items, Canonical v) : Canonical (.array items)
  | object {members : List (String × Json)} (hordered : members.Pairwise fun m m' => m.1 < m'.1)
      (h : ∀ m ∈ members, Canonical m.2) : Canonical (.object members)

/-- Whatever value a draft has is as reading makes it. -/
def ReadsCanonical (d : Draft) : Prop := ∀ depth v, value depth d = .ok v → Canonical v

theorem readsCanonical_array {ds : List Draft} (h : ∀ d ∈ ds, ReadsCanonical d)
    (fault : Option Problem) : ReadsCanonical (.array ds fault) := by
  intro depth v hv
  obtain ⟨k, -, hv⟩ := Except.bind_eq_ok_iff.mp hv
  obtain ⟨vs, hvs, hv⟩ := Except.bind_eq_ok_iff.mp hv
  obtain ⟨-, -, hv⟩ := Except.bind_eq_ok_iff.mp hv
  cases hv
  refine .array fun v hv => ?_
  obtain ⟨d, hd, hread⟩ := exists_left_of_forall₂ (values_eq_ok_iff.mp hvs) v hv
  exact h d hd k v hread

theorem readsCanonical_object {es : List (Except Problem String × Draft)}
    (h : ∀ e ∈ es, ReadsCanonical e.2) (fault : Option Problem) :
    ReadsCanonical (.object es fault) := by
  intro depth v hv
  obtain ⟨k, -, hv⟩ := Except.bind_eq_ok_iff.mp hv
  obtain ⟨ms, hms, hv⟩ := Except.bind_eq_ok_iff.mp hv
  obtain ⟨-, -, hv⟩ := Except.bind_eq_ok_iff.mp hv
  cases hv
  refine .object (KeyMap.ofList ms).ordered fun m hm => ?_
  rcases KeyMap.mem_putAll hm with hm | hm
  · cases hm
  · obtain ⟨e, he, -, hread⟩ := exists_left_of_forall₂ (memberValues_eq_ok_iff.mp hms) m hm
    exact h e he k m.2 hread

/-! ## Scanning -/

/-- What is scanned within a bound on the number of steps has values as reading makes them. -/
structure ScansCanonical (fuel : Nat) : Prop where
  value : ∀ cs, ReadsCanonical (scan fuel cs).1
  items : ∀ cs, ∀ d ∈ (scanItems fuel cs).1, ReadsCanonical d
  members : ∀ cs, ∀ e ∈ (scanMembers fuel cs).1, ReadsCanonical e.2

theorem readsCanonical_absent : ReadsCanonical .absent := nofun

theorem readsCanonical_broken (p : Problem) : ReadsCanonical (.broken p) := nofun

theorem scanName_canonical {d : Draft} (h : ReadsCanonical d) (name cs : List Char) :
    ReadsCanonical (scanName d name cs).1 := by
  fun_induction scanName d name cs with
  | case1 => exact h
  | case2 => exact readsCanonical_broken _
  | case3 _ _ _ ih => exact ih
  | case4 => exact readsCanonical_broken _

variable {fuel : Nat}

theorem scan_canonical (ih : ScansCanonical fuel) (cs : List Char) :
    ReadsCanonical (scan (fuel + 1) cs).1 := by
  unfold scan
  split
  next => exact readsCanonical_absent
  next =>
    refine scanName_canonical ?_ _ _
    rintro depth v ⟨⟩
    exact .null
  next =>
    refine scanName_canonical ?_ _ _
    rintro depth v ⟨⟩
    exact .bool true
  next =>
    refine scanName_canonical ?_ _ _
    rintro depth v ⟨⟩
    exact .bool false
  next =>
    intro depth v hv
    obtain ⟨s, -, rfl⟩ := Except.map_eq_ok_iff.mp hv
    exact .string s
  next =>
    split
    next => exact readsCanonical_array (List.forall_mem_nil _) _
    next => exact readsCanonical_array (List.forall_mem_nil _) _
    next => exact readsCanonical_array (ih.items _) _
  next =>
    split
    next => exact readsCanonical_object (List.forall_mem_nil _) _
    next => exact readsCanonical_object (List.forall_mem_nil _) _
    next => exact readsCanonical_object (ih.members _) _
  next =>
    split
    next =>
      intro depth v hv
      obtain ⟨n, hn, rfl⟩ := Except.map_eq_ok_iff.mp hv
      exact .number (scanNumber_inRange hn)
    next => exact readsCanonical_broken _

theorem scanItems_canonical (ih : ScansCanonical fuel) (cs : List Char) :
    ∀ d ∈ (scanItems (fuel + 1) cs).1, ReadsCanonical d := by
  have hitem := ih.value cs
  unfold scanItems
  generalize scan fuel cs = scanned at hitem ⊢
  obtain ⟨d, after⟩ := scanned
  have hsingle : ∀ d' ∈ [d], ReadsCanonical d' := List.forall_mem_singleton.mpr hitem
  dsimp only
  split
  next => exact hsingle
  next =>
    split
    next => exact hsingle
    next => exact List.forall_mem_cons.mpr ⟨hitem, ih.items _⟩
    next => exact hsingle
    next => exact hsingle

theorem scanMembers_canonical (ih : ScansCanonical fuel) (cs : List Char) :
    ∀ e ∈ (scanMembers (fuel + 1) cs).1, ReadsCanonical e.2 := by
  have hbroken : ∀ key p, ∀ e ∈ [((key, .broken p) : Except Problem String × Draft)],
      ReadsCanonical e.2 := fun key p => List.forall_mem_singleton.mpr (readsCanonical_broken p)
  unfold scanMembers
  split
  next => exact List.forall_mem_singleton.mpr readsCanonical_absent
  next =>
    dsimp only
    split
    next => exact hbroken _ _
    next =>
      split
      next => exact hbroken _ _
      next rest _ =>
        have hvalue := ih.value rest
        generalize scan fuel rest = scanned at hvalue ⊢
        obtain ⟨d, after⟩ := scanned
        have hsingle : ∀ key, ∀ e ∈ [((key, d) : Except Problem String × Draft)],
            ReadsCanonical e.2 := fun key => List.forall_mem_singleton.mpr hvalue
        dsimp only
        split
        next => exact hsingle _
        next =>
          split
          next => exact hsingle _
          next => exact List.forall_mem_cons.mpr ⟨hvalue, ih.members _⟩
          next => exact hsingle _
          next => exact hsingle _
      next => exact hbroken _ _
  next => exact hbroken _ _

theorem scansCanonical (fuel : Nat) : ScansCanonical fuel := by
  induction fuel with
  | zero =>
      exact ⟨fun _ => readsCanonical_absent, fun _ => List.forall_mem_nil _,
        fun _ => List.forall_mem_nil _⟩
  | succ fuel ih => exact ⟨scan_canonical ih, scanItems_canonical ih, scanMembers_canonical ih⟩

/-- The value of a text has whole numbers in range and members in the order of their names. -/
theorem canonical_parse {text : String} {v : Json} (h : parse text = .ok v) : v.Canonical := by
  have hcanonical := (scansCanonical (text.toList.length + 1)).value text.toList
  unfold parse Json.read readChars at h
  generalize scan (text.toList.length + 1) text.toList = scanned at h hcanonical
  obtain ⟨v', hv, h⟩ := Except.bind_eq_ok_iff.mp h
  obtain ⟨rest, -, h⟩ := Except.bind_eq_ok_iff.mp h
  split at h
  next =>
    cases h
    exact hcanonical _ _ hv
  next => cases h

end Conformance.Json
