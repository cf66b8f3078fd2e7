import Conformance.Proofs.Json.Places
import Conformance.Redaction
import Conformance.Settings
import Mathlib.Data.List.TakeWhile

/-!
# Redacted values

Redaction keeps the shape of a value. `places_redact` says what becomes of each place: nothing, if
no name on the way to it is sensitive; a mask, if its own name is the first one; and otherwise it is
gone. `redact_redact` says that redacting twice is redacting once with the fragments of both, and
the laws of redaction follow from it (`redact_laws`): only which fragments there are counts, and more
of them never bring anything back.
-/

namespace Conformance.Redaction

open Json (Place Step beneath itemPlaces memberPlaces surface)

variable {fragments f g : List String}

/-! ## Redaction as a map -/

/-- A redacted member. -/
def redactMember (fragments : List String) (m : String × Json) : String × Json :=
  (m.1, if isSensitive fragments m.1 then .string mask else redact fragments m.2)

theorem redactMember_sensitive {m : String × Json} (h : isSensitive fragments m.1 = true) :
    redactMember fragments m = (m.1, .string mask) := by
  rw [redactMember, if_pos h]

theorem redactMember_plain {m : String × Json} (h : isSensitive fragments m.1 = false) :
    redactMember fragments m = (m.1, redact fragments m.2) := by
  rw [redactMember, if_neg (Bool.not_eq_true _ ▸ h)]

theorem redact_array (items : List Json) :
    redact fragments (.array items) = .array (items.map (redact fragments)) := by
  rw [redact]
  congr 1
  induction items with
  | nil => rfl
  | cons v rest ih => rw [redactItems, ih, List.map_cons]

theorem redact_object (members : List (String × Json)) :
    redact fragments (.object members) = .object (members.map (redactMember fragments)) := by
  rw [redact]
  congr 1
  induction members with
  | nil => rfl
  | cons m rest ih =>
      rw [redactMembers, ih, List.map_cons]
      rfl

/-! ## Places -/

/-- Whether a step leads to the value of a hidden name. -/
def hides (hidden : String → Bool) : Step → Bool
  | .item _ => false
  | .member name => hidden name

/-- What is shown of a place: all of it if no name on the way is hidden, and a mask if the last name
is the first hidden one. Places further down are not shown. -/
def shown (hidden : String → Bool) (p : Place) : Option Place :=
  match p.1.dropWhile fun step => !hides hidden step with
  | [] => some p
  | [_] => some (p.1, .string mask)
  | _ :: _ :: _ => none

variable {hidden : String → Bool}

/-- A step that hides nothing is passed over. -/
theorem filterMap_shown_beneath {step : Step} (h : hides hidden step = false) (ps : List Place) :
    (beneath step ps).filterMap (shown hidden) = beneath step (ps.filterMap (shown hidden)) := by
  rw [beneath, beneath, List.filterMap_map, List.map_filterMap]
  congr 1
  funext p
  simp only [Function.comp, shown, List.dropWhile_cons, h, Bool.not_false, if_true]
  split <;> rfl

/-- Of what a step hides there is a mask. -/
theorem filterMap_shown_hidden {step : Step} (h : hides hidden step = true) (v : Json) :
    (beneath step v.places).filterMap (shown hidden) = [([step], .string mask)] := by
  obtain ⟨rest, hplaces, hrest⟩ := v.places_eq_cons
  have hgone : (beneath step rest).filterMap (shown hidden) = [] := by
    rw [List.filterMap_eq_nil_iff]
    intro p hp
    obtain ⟨q, hq, rfl⟩ := List.mem_map.mp hp
    obtain ⟨next, way, hway⟩ := List.exists_cons_of_ne_nil (hrest q hq)
    simp [shown, h, hway]
  rw [hplaces, beneath, List.map_cons, List.filterMap_cons, ← beneath, hgone]
  simp [shown, h]

theorem surface_redact (v : Json) : (redact fragments v).surface = v.surface := by
  cases v with
  | array items =>
      rw [redact_array, surface, surface, List.map_map]
      rfl
  | object members =>
      rw [redact_object, surface, surface, List.map_map]
      rfl
  | _ => rfl

theorem itemPlaces_redact {items : List Json} (index : Nat)
    (h : ∀ v ∈ items, (redact fragments v).places =
      v.places.filterMap (shown (isSensitive fragments))) :
    itemPlaces index (items.map (redact fragments)) =
      (itemPlaces index items).filterMap (shown (isSensitive fragments)) := by
  induction items generalizing index with
  | nil => rfl
  | cons v rest ih =>
      obtain ⟨hv, hrest⟩ := List.forall_mem_cons.mp h
      rw [List.map_cons, itemPlaces, itemPlaces, List.filterMap_append, ih _ hrest, hv,
        filterMap_shown_beneath rfl]

theorem memberPlaces_redact {members : List (String × Json)}
    (h : ∀ m ∈ members, (redact fragments m.2).places =
      m.2.places.filterMap (shown (isSensitive fragments))) :
    memberPlaces (members.map (redactMember fragments)) =
      (memberPlaces members).filterMap (shown (isSensitive fragments)) := by
  induction members with
  | nil => rfl
  | cons m rest ih =>
      obtain ⟨hm, hrest⟩ := List.forall_mem_cons.mp h
      rw [List.map_cons, memberPlaces, memberPlaces, List.filterMap_append, ih hrest]
      cases hname : isSensitive fragments m.1 with
      | false =>
          have hstep : hides (isSensitive fragments) (.member m.1) = false := hname
          rw [redactMember_plain hname, hm, filterMap_shown_beneath hstep]
      | true =>
          have hstep : hides (isSensitive fragments) (.member m.1) = true := hname
          rw [redactMember_sensitive hname, filterMap_shown_hidden hstep]
          rfl

/-- The places of a redacted value are what is shown of the places of the value. -/
theorem places_redact (v : Json) :
    (redact fragments v).places = v.places.filterMap (shown (isSensitive fragments)) := by
  induction v using Json.induction with
  | null | bool | number | string => rfl
  | array items ih =>
      have hsurface := @surface_redact fragments (.array items)
      rw [redact_array] at hsurface ⊢
      rw [Json.places, Json.places, hsurface, itemPlaces_redact 0 ih]
      rfl
  | object members ih =>
      have hsurface := @surface_redact fragments (.object members)
      rw [redact_object] at hsurface ⊢
      rw [Json.places, Json.places, hsurface, memberPlaces_redact ih]
      rfl

/-! ## Redacting again -/

theorem isSensitive_append (name : String) :
    isSensitive (f ++ g) name = (isSensitive f name || isSensitive g name) := List.any_append

theorem redact_redact (f g : List String) (v : Json) :
    redact g (redact f v) = redact (f ++ g) v := by
  induction v using Json.induction with
  | null | bool | number | string => rfl
  | array items ih =>
      have hitem : ∀ v ∈ items, (redact g ∘ redact f) v = redact (f ++ g) v := ih
      rw [redact_array, redact_array, redact_array, List.map_map, List.map_congr_left hitem]
  | object members ih =>
      have hmember : ∀ m ∈ members,
          (redactMember g ∘ redactMember f) m = redactMember (f ++ g) m := by
        intro m hm
        have hboth : isSensitive (f ++ g) m.1 = (isSensitive f m.1 || isSensitive g m.1) :=
          isSensitive_append m.1
        rw [Function.comp]
        -- A mask that the first pass has put in is not looked into by the second.
        cases hf : isSensitive f m.1 with
        | true =>
            rw [hf, Bool.true_or] at hboth
            rw [redactMember_sensitive hf, redactMember_sensitive hboth, redactMember]
            split <;> rfl
        | false =>
            rw [hf, Bool.false_or] at hboth
            rw [redactMember_plain hf, redactMember, redactMember, hboth, ih m hm]
      rw [redact_object, redact_object, redact_object, List.map_map, List.map_congr_left hmember]

/-- Only which names are sensitive counts. -/
theorem redact_congr (h : ∀ name, isSensitive f name = isSensitive g name) (v : Json) :
    redact f v = redact g v := by
  induction v using Json.induction with
  | null | bool | number | string => rfl
  | array items ih => rw [redact_array, redact_array, List.map_congr_left ih]
  | object members ih =>
      have hmember : ∀ m ∈ members, redactMember f m = redactMember g m := by
        intro m hm
        rw [redactMember, redactMember, h, ih m hm]
      rw [redact_object, redact_object, List.map_congr_left hmember]

/-- Neither order nor repetition of fragments counts. -/
theorem redact_of_mem_iff (h : ∀ x, x ∈ f ↔ x ∈ g) (v : Json) : redact f v = redact g v := by
  apply redact_congr
  intro name
  rw [Bool.eq_iff_iff]
  simp only [isSensitive, List.any_eq_true, h]

/-- With more fragments nothing is to be seen that was not, masks apart. -/
theorem mem_places_redact_append {v : Json} {p : Place} (h : p ∈ (redact (f ++ g) v).places) :
    p.2 = .string mask ∨ p ∈ (redact f v).places := by
  rw [places_redact, List.mem_filterMap] at h ⊢
  obtain ⟨q, hq, hshown⟩ := h
  unfold shown at hshown
  split at hshown
  next hopen =>
    right
    refine ⟨q, hq, ?_⟩
    have hway : q.1.dropWhile (fun step => !hides (isSensitive f) step) = [] := by
      rw [List.dropWhile_eq_nil_iff] at hopen ⊢
      intro step hstep
      have hboth := hopen step hstep
      cases step with
      | item index => rfl
      | member name =>
          simp only [hides, isSensitive_append, Bool.not_or, Bool.and_eq_true] at hboth
          exact hboth.1
    rw [shown, hway]
    exact hshown
  next =>
    left
    cases hshown
    rfl
  next => cases hshown

/-- **Laws of redaction.** Redacting by one list of fragments and then by another is redacting by
both at once. So redacting again changes nothing, the two may change places, and the order of the
fragments does not count. Values that a list makes the same stay the same with more fragments, and
nothing is to be seen with more fragments that was hidden before, masks apart. Fragments that are
added to the settings are such a second list. -/
theorem redact_laws (f g : List String) (v : Json) :
    redact g (redact f v) = redact (f ++ g) v ∧
      redact f (redact f v) = redact f v ∧
      redact g (redact f v) = redact f (redact g v) ∧
      (∀ f', (∀ x, x ∈ f' ↔ x ∈ f) → redact f' v = redact f v) ∧
      (∀ w, redact f v = redact f w → redact (f ++ g) v = redact (f ++ g) w) ∧
      (∀ p ∈ (redact (f ++ g) v).places, p.2 = .string mask ∨ p ∈ (redact f v).places) ∧
      ∀ s : LogSettings, redact { s with redactFields := s.redactFields ++ g }.fragments v =
        redact g (redact s.fragments v) := by
  refine ⟨redact_redact f g v, ?_, ?_, fun f' h => redact_of_mem_iff h v, ?_,
    fun p => mem_places_redact_append, ?_⟩
  · rw [redact_redact]
    exact redact_of_mem_iff (by simp) v
  · rw [redact_redact, redact_redact]
    exact redact_of_mem_iff (by simp [or_comm]) v
  · intro w h
    rw [← redact_redact, ← redact_redact, h]
  · intro s
    rw [redact_redact, LogSettings.fragments, LogSettings.fragments, List.append_assoc]

end Conformance.Redaction
