import Conformance.Proofs.Redaction.Values
import Conformance.Proofs.Text.Lowercase
import Conformance.Proofs.Text.Split

/-!
# What a redacted value gives away

`AlikeBut` relates values that differ in nothing but what stands under hidden names, at any depth:
it is the least equivalence that goes through arrays and objects and lets anything stand under a
hidden name. `redact_conceals` says that values are redacted alike exactly if they differ so under
sensitive names, and what of a value is still there.

A name is sensitive if it holds a fragment when both are put in lower case. For fragments without a
sigma this is to hold it when case is ignored; a sigma has two lower-case forms, and in `passcode`
the one at the end of the fragment is not the one that the longer name has there
(`passcode_shown`).
-/

namespace Conformance.Redaction

variable {fragments : List String} {hidden : String → Prop} {u v w : Json}

/-! ## Values alike -/

/-- Two values that differ in nothing but what stands under hidden names. -/
inductive AlikeBut (hidden : String → Prop) : Json → Json → Prop
  | refl (v : Json) : AlikeBut hidden v v
  | trans {u v w : Json} : AlikeBut hidden u v → AlikeBut hidden v w → AlikeBut hidden u w
  /-- One item is another one that is alike. -/
  | item (before after : List Json) {v w : Json} : AlikeBut hidden v w →
      AlikeBut hidden (.array (before ++ v :: after)) (.array (before ++ w :: after))
  /-- One member has another value that is alike. -/
  | member (before after : List (String × Json)) (name : String) {v w : Json} :
      AlikeBut hidden v w → AlikeBut hidden (.object (before ++ (name, v) :: after))
        (.object (before ++ (name, w) :: after))
  /-- Under a hidden name anything may stand. -/
  | under (before after : List (String × Json)) {name : String} (v w : Json) : hidden name →
      AlikeBut hidden (.object (before ++ (name, v) :: after))
        (.object (before ++ (name, w) :: after))

theorem AlikeBut.symm (h : AlikeBut hidden v w) : AlikeBut hidden w v := by
  induction h with
  | refl v => exact .refl v
  | trans _ _ ih ih' => exact ih'.trans ih
  | item before after _ ih => exact .item before after ih
  | member before after name _ ih => exact .member before after name ih
  | under before after v w hname => exact .under before after w v hname

/-- Items may be exchanged one after the other. -/
theorem AlikeBut.items {change : Json → Json} {items : List Json}
    (h : ∀ v ∈ items, AlikeBut hidden v (change v)) (before : List Json) :
    AlikeBut hidden (.array (before ++ items)) (.array (before ++ items.map change)) := by
  -- The items in front are those that have been exchanged.
  induction items generalizing before with
  | nil => exact .refl _
  | cons v rest ih =>
      obtain ⟨hv, hrest⟩ := List.forall_mem_cons.mp h
      refine (AlikeBut.item before rest hv).trans ?_
      have hnext := ih hrest (before ++ [change v])
      rwa [List.append_assoc, List.append_assoc] at hnext

/-- Members may be exchanged one after the other, if their names stay. -/
theorem AlikeBut.members {change : String × Json → Json} {members : List (String × Json)}
    (h : ∀ m ∈ members, hidden m.1 ∨ AlikeBut hidden m.2 (change m))
    (before : List (String × Json)) : AlikeBut hidden (.object (before ++ members))
      (.object (before ++ members.map fun m => (m.1, change m))) := by
  induction members generalizing before with
  | nil => exact .refl _
  | cons m rest ih =>
      obtain ⟨hm, hrest⟩ := List.forall_mem_cons.mp h
      have hfirst : AlikeBut hidden (.object (before ++ m :: rest))
          (.object (before ++ (m.1, change m) :: rest)) := by
        rcases hm with hname | halike
        · exact .under before rest _ _ hname
        · exact .member before rest m.1 halike
      refine hfirst.trans ?_
      have hnext := ih hrest (before ++ [(m.1, change m)])
      rwa [List.append_assoc, List.append_assoc] at hnext

/-- Values that are alike are redacted alike. -/
theorem AlikeBut.redact_eq (h : AlikeBut (fun name => isSensitive fragments name = true) v w) :
    redact fragments v = redact fragments w := by
  induction h with
  | refl => rfl
  | trans _ _ ih ih' => exact ih.trans ih'
  | item before after _ ih => simp only [redact_array, List.map_append, List.map_cons, ih]
  | @member before after name v w _ ih =>
      have hmember : redactMember fragments (name, v) = redactMember fragments (name, w) := by
        rw [redactMember, redactMember, ih]
      simp only [redact_object, List.map_append, List.map_cons, hmember]
  | @under before after name v w hname =>
      have hmember : ∀ value, redactMember fragments (name, value) = (name, .string mask) :=
        fun _ => redactMember_sensitive hname
      simp only [redact_object, List.map_append, List.map_cons, hmember]

/-- A value is like what redaction makes of it. -/
theorem alikeBut_redact (v : Json) :
    AlikeBut (fun name => isSensitive fragments name = true) v (redact fragments v) := by
  induction v using Json.induction with
  | null | bool | number | string => exact .refl _
  | array items ih =>
      rw [redact_array]
      exact AlikeBut.items ih []
  | object members ih =>
      rw [redact_object]
      refine AlikeBut.members (fun m hm => ?_) []
      cases hname : isSensitive fragments m.1 with
      | false => exact .inr (ih m hm)
      | true => exact .inl rfl

theorem redact_eq_iff : redact fragments v = redact fragments w ↔
    AlikeBut (fun name => isSensitive fragments name = true) v w := by
  constructor
  · intro heq
    have hw := @alikeBut_redact fragments w
    rw [← heq] at hw
    exact (alikeBut_redact v).trans hw.symm
  · exact AlikeBut.redact_eq

/-! ## Sensitive names -/

theorem isSensitive_iff_lowercase {name : String} : isSensitive fragments name = true ↔
    ∃ f ∈ fragments, (Text.lowercase f).toList <:+: (Text.lowercase name).toList := by
  simp only [isSensitive, List.any_eq_true, Text.occursIn_iff]

theorem isSensitive_iff (h : ∀ f ∈ fragments, Text.HasNoSigma f) (name : String) :
    isSensitive fragments name = true ↔ ∃ f ∈ fragments, Text.HoldsIgnoringCase name f := by
  rw [isSensitive_iff_lowercase]
  constructor
  · rintro ⟨f, hf, hpart⟩
    exact ⟨f, hf, (Text.infix_lowercase_iff (h f hf) name).mp hpart⟩
  · rintro ⟨f, hf, hpart⟩
    exact ⟨f, hf, (Text.infix_lowercase_iff (h f hf) name).mpr hpart⟩

/-- A fragment that ends in a capital sigma is not found in a name that goes on with a letter behind
that sigma. -/
theorem isSensitive_eq_false_of_sigma {stem rest : List Char} (hstem : 'Σ' ∉ stem)
    (hrest : 'Σ' ∉ rest) (hfinal : 'ς' ∉ (stem ++ rest).flatMap Text.lowercaseChar)
    (hbefore : Text.startsCased stem.reverse = true) (hbehind : Text.startsCased rest = true) :
    isSensitive [String.ofList (stem ++ ['Σ'])] (String.ofList (stem ++ 'Σ' :: rest)) = false := by
  rw [List.flatMap_append, List.mem_append, not_or] at hfinal
  rw [← Bool.not_eq_true, isSensitive_iff_lowercase]
  rintro ⟨f, hf, hpart⟩
  obtain rfl := List.mem_singleton.mp hf
  rw [Text.lowercase, Text.lowercase, String.toList_ofList, String.toList_ofList,
    String.toList_ofList, String.toList_ofList, Text.lowercaseFrom_append hstem,
    Text.lowercaseFrom_append hstem, Text.lowercaseFrom_eq hrest, List.append_nil, hbefore,
    hbehind] at hpart
  have hmem : 'ς' ∈ stem.flatMap Text.lowercaseChar ++ 'σ' :: rest.flatMap Text.lowercaseChar :=
    hpart.subset (List.mem_append_right _ List.mem_cons_self)
  simp [hfinal.1, hfinal.2] at hmem

/-- **Redaction conceals.** Values are redacted alike exactly if they differ in nothing but what
stands under sensitive names. All places of a value are still there with their surfaces, so its
shape, names, lengths and leaves, but for what stands under sensitive names, where the topmost ones
hold a mask. If no fragment has a sigma, the sensitive names are those that hold a fragment when
case is ignored. -/
theorem redact_conceals (fragments : List String) :
    (∀ v w, redact fragments v = redact fragments w ↔
        AlikeBut (fun name => isSensitive fragments name = true) v w) ∧
      (∀ v, (redact fragments v).places = v.places.filterMap (shown (isSensitive fragments))) ∧
      ((∀ f ∈ fragments, Text.HasNoSigma f) → ∀ name,
        isSensitive fragments name = true ↔ ∃ f ∈ fragments, Text.HoldsIgnoringCase name f) :=
  ⟨fun _ _ => redact_eq_iff, places_redact, isSensitive_iff⟩

/-- A Greek and a Latin letter begin a word. -/
theorem startsCased_letters :
    ∀ c ∈ ['Ο', 'O'], ∀ rest, Text.startsCased (c :: rest) = true := by
  have hcased : ['Ο', 'O'].all Text.casedRanges.contains = true := by
    unfold Text.casedRanges Text.Ranges.ofText Text.Ranges.contains
    rw [String.toList_ofList]
    decide +kernel
  have hpassed : ['Ο', 'O'].any Text.caseIgnorableRanges.contains = false := by
    unfold Text.caseIgnorableRanges Text.Ranges.ofText Text.Ranges.contains
    rw [String.toList_ofList]
    decide +kernel
  intro c hc rest
  have hpassed' := List.any_eq_false.mp hpassed c hc
  rw [Text.startsCased_cons (Bool.not_eq_true _ ▸ hpassed'), List.all_eq_true.mp hcased c hc]

/-- A document with the code for one-time passwords. -/
def passcode (code : String) : Json := .object [("ΚΩΔΙΚΟΣOTP", .string code)]

/-- The fragment is part of the name as it stands, and yet the code is shown. -/
theorem passcode_shown :
    "ΚΩΔΙΚΟΣ".toList <:+: "ΚΩΔΙΚΟΣOTP".toList ∧
      AlikeBut (fun name => ∃ f ∈ ["ΚΩΔΙΚΟΣ"], Text.HoldsIgnoringCase name f) (passcode "1234")
        (passcode "5678") ∧
      redact ["ΚΩΔΙΚΟΣ"] (passcode "1234") = passcode "1234" ∧
      redact ["ΚΩΔΙΚΟΣ"] (passcode "1234") ≠ redact ["ΚΩΔΙΚΟΣ"] (passcode "5678") := by
  have hpart : "ΚΩΔΙΚΟΣ".toList <:+: "ΚΩΔΙΚΟΣOTP".toList := ⟨[], "OTP".toList, by simp⟩
  have hname : isSensitive ["ΚΩΔΙΚΟΣ"] "ΚΩΔΙΚΟΣOTP" = false :=
    @isSensitive_eq_false_of_sigma ['Κ', 'Ω', 'Δ', 'Ι', 'Κ', 'Ο'] ['O', 'T', 'P'] (by decide)
      (by decide) (by decide +kernel) (startsCased_letters 'Ο' (by decide) _)
      (startsCased_letters 'O' (by decide) _)
  have hshown : ∀ code, redact ["ΚΩΔΙΚΟΣ"] (passcode code) = passcode code := by
    intro code
    have hmember : redactMember ["ΚΩΔΙΚΟΣ"] ("ΚΩΔΙΚΟΣOTP", .string code) =
        ("ΚΩΔΙΚΟΣOTP", .string code) :=
      redactMember_plain (m := ("ΚΩΔΙΚΟΣOTP", .string code)) hname
    rw [passcode, redact_object, List.map_singleton, hmember]
  refine ⟨hpart, ?_, hshown _, ?_⟩
  · exact .under [] [] _ _ ⟨_, List.mem_singleton.mpr rfl, Text.holdsIgnoringCase_of_part hpart⟩
  · rw [hshown, hshown]
    simp [passcode]

end Conformance.Redaction
