import Conformance.Proofs.Json.Canonical
import Conformance.Proofs.Json.Float
import Conformance.Proofs.Json.Text

/-!
# Which values read back

A value that was read from a text is written again and read a second time. `Rereads depth v` says when
this gives `v`: as many arrays and objects may stand within one another as can be entered, and each
floating-point number must read back from its own text. `exists_drafted` shows that nothing else
matters: the text of the value is always scanned in whole, as a draft whose value is `v` in just these
cases.
-/

namespace Conformance

/-- A floating-point number that is read from its text. -/
def Binary64.ReadsBack (x : Binary64) : Prop := Json.parse x.render = .ok (.number (.float x))

namespace Json

open Draft

/-- A value in which no more than so many arrays and objects stand within one another, and every
floating-point number is read from its text. -/
inductive Rereads : Nat → Json → Prop
  | null {depth : Nat} : Rereads depth .null
  | bool {depth : Nat} (b : Bool) : Rereads depth (.bool b)
  | int {depth : Nat} (i : Int) : Rereads depth (.number (.int i))
  | float {depth : Nat} {x : Binary64} (h : x.ReadsBack) : Rereads depth (.number (.float x))
  | string {depth : Nat} (s : String) : Rereads depth (.string s)
  | array {depth : Nat} {items : List Json} (h : ∀ v ∈ items, Rereads depth v) :
      Rereads (depth + 1) (.array items)
  | object {depth : Nat} {members : List (String × Json)} (h : ∀ m ∈ members, Rereads depth m.2) :
      Rereads (depth + 1) (.object members)

theorem rereads_array_iff {depth : Nat} {items : List Json} :
    Rereads depth (.array items) ↔ ∃ k, depth = k + 1 ∧ ∀ v ∈ items, Rereads k v := by
  constructor
  · rintro (_ | _ | _ | _ | _ | h | _)
    exact ⟨_, rfl, h⟩
  · rintro ⟨k, rfl, h⟩
    exact .array h

theorem rereads_object_iff {depth : Nat} {members : List (String × Json)} :
    Rereads depth (.object members) ↔ ∃ k, depth = k + 1 ∧ ∀ m ∈ members, Rereads k m.2 := by
  constructor
  · rintro (_ | _ | _ | _ | _ | _ | h)
    exact ⟨_, rfl, h⟩
  · rintro ⟨k, rfl, h⟩
    exact .object h

/-! ## The draft of a text -/

/-- The text of a value is scanned as a draft which has that value in case the value reads back. -/
structure Drafted (v : Json) (d : Draft) : Prop where
  scans : ScansAs v d
  null_iff : d = .null ↔ v = .null
  value_iff : ∀ depth, value depth d = .ok v ↔ Rereads depth v

/-- The same of a member. -/
def MemberDrafted (m : String × Json) (e : Except Problem String × Draft) : Prop :=
  e.1 = .ok m.1 ∧ Drafted m.2 e.2

theorem drafted_float (x : Binary64) : ∃ d, Drafted (.number (.float x)) d := by
  obtain ⟨r, hr⟩ := Number.exists_readsAs x
  have hscans := scansAs_number hr
  have hparse : parse x.render = r.map .number := by
    have hread := read_render_eq value hscans
    rwa [render, chars, Number.chars, String.ofList_toList] at hread
  refine ⟨_, hscans, iff_of_false nofun nofun, fun depth => ?_⟩
  constructor
  · intro hvalue
    exact .float (hparse.trans hvalue)
  · rintro (_ | _ | _ | h | _ | _ | _)
    exact hparse.symm.trans h

theorem drafted_int {i : Int} (h : (Number.int i).InRange) : Drafted (.number (.int i))
    (.number (.ok (.int i)) none) := by
  have hback : (Number.int i).ReadsBack := by
    obtain ⟨hlow, hhigh⟩ := h
    cases i with
    | ofNat n =>
        have hn : (n : Int) < 2 ^ 64 := hhigh
        exact readsBack_nat (by omega)
    | negSucc n => exact readsBack_negSucc (by omega)
  exact ⟨scansAs_number hback, iff_of_false nofun nofun, fun _ => iff_of_true rfl (.int i)⟩

theorem exists_forall₂ {α β : Type} {R : α → β → Prop} {as : List α} (h : ∀ a ∈ as, ∃ b, R a b) :
    ∃ bs, List.Forall₂ R as bs := by
  induction as with
  | nil => exact ⟨[], .nil⟩
  | cons a as ih =>
      obtain ⟨⟨b, hb⟩, has⟩ := List.forall_mem_cons.mp h
      obtain ⟨bs, hbs⟩ := ih has
      exact ⟨b :: bs, .cons hb hbs⟩

/-- Items have their values as drafts if and only if each of them reads back. -/
theorem values_drafted {items : List Json} {ds : List Draft} (h : List.Forall₂ Drafted items ds)
    (depth : Nat) : values depth ds = .ok items ↔ ∀ v ∈ items, Rereads depth v := by
  rw [values_eq_ok_iff]
  induction h with
  | nil => exact iff_of_true .nil (List.forall_mem_nil _)
  | cons hv _ ih => rw [List.forall₂_cons, List.forall_mem_cons, hv.value_iff, ih]

theorem memberValues_drafted {members : List (String × Json)}
    {es : List (Except Problem String × Draft)} (h : List.Forall₂ MemberDrafted members es)
    (depth : Nat) : memberValues depth es = .ok members ↔ ∀ m ∈ members, Rereads depth m.2 := by
  rw [memberValues_eq_ok_iff]
  induction h with
  | nil => exact iff_of_true .nil (List.forall_mem_nil _)
  | cons hm _ ih =>
      rw [List.forall₂_cons, List.forall_mem_cons, hm.2.value_iff, ih, and_iff_right hm.1]

/-- Whatever members drafts have, their names are those that were written. -/
theorem names_of_memberValues {members ms : List (String × Json)}
    {es : List (Except Problem String × Draft)} (h : List.Forall₂ MemberDrafted members es)
    {depth : Nat} (hms : memberValues depth es = .ok ms) : ms.map (·.1) = members.map (·.1) := by
  rw [memberValues_eq_ok_iff] at hms
  induction h generalizing ms with
  | nil =>
      cases hms
      rfl
  | cons hm _ ih =>
      cases hms with
      | cons hm' hms =>
          have hname := hm.1.symm.trans hm'.1
          rw [List.map_cons, List.map_cons, ih hms, Except.ok.inj hname]

theorem drafted_array {items : List Json} {ds : List Draft} (h : List.Forall₂ Drafted items ds) :
    Drafted (.array items) (.array ds none) := by
  refine ⟨scansAs_array (h.imp fun _ _ hv => hv.scans), iff_of_false nofun nofun, fun depth => ?_⟩
  rw [rereads_array_iff]
  constructor
  · intro hvalue
    obtain ⟨k, hk, hvalue⟩ := Except.bind_eq_ok_iff.mp hvalue
    obtain ⟨vs, hvs, hvalue⟩ := Except.bind_eq_ok_iff.mp hvalue
    cases hvalue
    cases depth with
    | zero => cases hk
    | succ depth =>
        cases hk
        exact ⟨k, rfl, (values_drafted h k).mp hvs⟩
  · rintro ⟨k, rfl, hitems⟩
    rw [value, enter]
    simp only [bind, Except.bind, (values_drafted h k).mpr hitems]
    rfl

theorem drafted_object {members : List (String × Json)}
    {es : List (Except Problem String × Draft)}
    (hordered : members.Pairwise fun m m' => m.1 < m'.1)
    (h : List.Forall₂ MemberDrafted members es) : Drafted (.object members) (.object es none) := by
  have hkeep : ∀ ms : List (String × Json), ms.map (·.1) = members.map (·.1) →
      objectOf ms = .object ms := by
    intro ms hms
    have hms' : ms.Pairwise fun m m' => m.1 < m'.1 := by
      rw [← List.pairwise_map, hms, List.pairwise_map]
      exact hordered
    exact congrArg (fun m : KeyMap Json => Json.object m.entries) (KeyMap.ofList_entries ⟨ms, hms'⟩)
  refine ⟨scansAs_object (h.imp fun _ _ hm => ⟨hm.1, hm.2.scans⟩), iff_of_false nofun nofun,
    fun depth => ?_⟩
  rw [rereads_object_iff]
  constructor
  · intro hvalue
    obtain ⟨k, hk, hvalue⟩ := Except.bind_eq_ok_iff.mp hvalue
    obtain ⟨ms, hms, hvalue⟩ := Except.bind_eq_ok_iff.mp hvalue
    have hobject : objectOf ms = .object members := Except.ok.inj hvalue
    rw [hkeep ms (names_of_memberValues h hms)] at hobject
    cases hobject
    cases depth with
    | zero => cases hk
    | succ depth =>
        cases hk
        exact ⟨k, rfl, (memberValues_drafted h k).mp hms⟩
  · rintro ⟨k, rfl, hmembers⟩
    rw [value, enter]
    simp only [bind, Except.bind, (memberValues_drafted h k).mpr hmembers]
    exact congrArg Except.ok (hkeep members rfl)

/-- The text of a value that was read is scanned in whole, and gives the value in case it reads back. -/
theorem exists_drafted {v : Json} (h : v.Canonical) : ∃ d, Drafted v d := by
  induction h with
  | null => exact ⟨_, scans_null, iff_of_true rfl rfl, fun _ => iff_of_true rfl .null⟩
  | bool b => exact ⟨_, scans_bool b, iff_of_false nofun nofun, fun _ => iff_of_true rfl (.bool b)⟩
  | @number n hn =>
      cases n with
      | int i => exact ⟨_, drafted_int hn⟩
      | float x => exact drafted_float x
  | string s =>
      exact ⟨_, scans_string s, iff_of_false nofun nofun, fun _ => iff_of_true rfl (.string s)⟩
  | array _ ih =>
      obtain ⟨ds, hds⟩ := exists_forall₂ ih
      exact ⟨_, drafted_array hds⟩
  | object hordered _ ih =>
      have hmembers := fun m hm => (ih m hm).elim fun d hd =>
        (⟨(.ok m.1, d), rfl, hd⟩ : ∃ e, MemberDrafted m e)
      obtain ⟨es, hes⟩ := exists_forall₂ hmembers
      exact ⟨_, drafted_object hordered hes⟩

end Json

end Conformance
