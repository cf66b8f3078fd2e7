import Conformance.Proofs.Json.Text
import Conformance.Proofs.Except
import Conformance.Proofs.KeyMap

/-!
# Reading back documents

`Reads read need v a` says that a value reads back as `a`, as text and within arrays and objects, if
`need` more of them may be entered. It is shown along the structure of what is read: `reads_text`,
`reads_list`, `reads_keyMap` and so on for values, and `reads_record` for records.

A record is written member by member and read member by member, so each member is looked at on its own:
`Takes set need names certain ms s s'` says that taking in the members `ms`, which are some of those of
the given names and the certain ones among them, leads from one state of the record to another. A member
that is left out when its value is empty is not certain, and its absence must mean just that
(`Takes.unlessBlank`, `Takes.unlessNone`).
-/

namespace Conformance.Json

open Draft

variable {α β σ : Type} {need : Nat}

/-- A value reads back as something, wherever that many more arrays and objects may be entered. -/
structure Reads (read : Reader α) (need : Nat) (v : Json) (a : α) : Prop where
  scans : Scans v
  read : ∀ depth, need ≤ depth → read depth v.draft = .ok a

/-- The text of a value that reads back as something reads back as it. -/
theorem Reads.read_render {read : Reader α} {v : Json} {a : α} (h : Reads read need v a)
    (hneed : need ≤ depthLimit) : Json.read read v.render = .ok a :=
  Json.read_render h.scans (h.read _ hneed)

/-! ## Single values -/

theorem reads_text (s : String) : Reads text need (.string s) s := ⟨scans_string s, fun _ _ => rfl⟩

theorem reads_flag (b : Bool) : Reads flag need (.bool b) b := ⟨scans_bool b, fun _ _ => rfl⟩

theorem natOfBits_draft {bits n : Nat} (h : n < 2 ^ bits) (depth : Nat) :
    natOfBits bits depth (nat n).draft = .ok n := if_pos h

theorem reads_uint16 (n : UInt16) : Reads uint16 need (.nat n.toNat) n where
  scans := scans_nat (Nat.lt_trans n.toNat_lt (by decide))
  read depth _ := by
    rw [uint16, natOfBits_draft n.toNat_lt, Except.map, UInt16.ofNat_toNat]

theorem reads_uint64 (n : UInt64) : Reads uint64 need (.nat n.toNat) n where
  scans := scans_nat n.toNat_lt
  read depth _ := by
    rw [uint64, natOfBits_draft n.toNat_lt, Except.map, UInt64.ofNat_toNat]

theorem reads_nullable {read : Reader α} {f : α → Json} (h : ∀ a, Reads read need (f a) a)
    (hnull : ∀ a, (f a).draft ≠ .null) (o : Option α) :
    Reads (nullable read) need (ofOption f o) o := by
  cases o with
  | none => exact ⟨scans_null, fun _ _ => rfl⟩
  | some a =>
      refine ⟨(h a).scans, fun depth hdepth => ?_⟩
      have hread := (h a).read depth hdepth
      unfold ofOption nullable
      split
      next hd => exact absurd hd (hnull a)
      · rw [hread]
        rfl

/-! ## Lists -/

theorem drafts_eq_map (items : List Json) : drafts items = items.map draft := by
  induction items with
  | nil => rfl
  | cons v rest ih => rw [drafts, ih, List.map_cons]

theorem readAll_map {read : Draft → Except Problem β} {f : α → Draft} {g : α → β} {as : List α}
    (h : ∀ a ∈ as, read (f a) = .ok (g a)) : readAll read (as.map f) = .ok (as.map g) := by
  induction as with
  | nil => rfl
  | cons a rest ih =>
      obtain ⟨ha, hrest⟩ := List.forall_mem_cons.mp h
      rw [List.map_cons, readAll, ha, ih hrest]
      rfl

theorem reads_list {read : Reader β} {f : α → Json} {g : α → β}
    (h : ∀ a, Reads read need (f a) (g a)) (as : List α) :
    Reads (list read) (need + 1) (.array (as.map f)) (as.map g) := by
  refine ⟨scans_array fun v hv => ?_, fun depth hdepth => ?_⟩
  · obtain ⟨a, -, rfl⟩ := List.mem_map.mp hv
    exact (h a).scans
  · obtain ⟨k, rfl⟩ := Nat.exists_eq_add_of_le' (Nat.le_of_add_left_le hdepth)
    have hall : readAll (read k) ((as.map f).map draft) = .ok (as.map g) := by
      rw [List.map_map]
      exact readAll_map fun a _ => (h a).read k (by omega)
    rw [draft, drafts_eq_map, list, enter]
    simp only [bind, Except.bind, hall]
    rfl

theorem reads_items {read : Reader α} {f : α → Json} (h : ∀ a, Reads read need (f a) a)
    (as : List α) : Reads (list read) (need + 1) (.array (as.map f)) as := by
  have hlist := reads_list (g := id) h as
  rwa [List.map_id] at hlist

theorem reads_texts (items : List String) :
    Reads (list text) (need + 1) (strings items) items := reads_items reads_text items

/-! ## Maps -/

theorem readMembers_entries {read : Draft → Except Problem α} {f : α → Json}
    {entries : List (String × α)} (h : ∀ e ∈ entries, read (f e.2).draft = .ok e.2)
    (m : KeyMap α) :
    readMembers read m (memberDrafts (entries.map fun e => (e.1, f e.2))) =
      .ok (m.putAll entries) := by
  induction entries generalizing m with
  | nil => rfl
  | cons e rest ih =>
      obtain ⟨he, hrest⟩ := List.forall_mem_cons.mp h
      rw [List.map_cons, memberDrafts, readMembers, he]
      exact ih hrest (m.put e.1 e.2)

theorem reads_keyMap {read : Reader α} {f : α → Json} {m : KeyMap α}
    (h : ∀ e ∈ m.entries, Reads read need (f e.2) e.2) :
    Reads (keyMap read) (need + 1) (ofKeyMap f m) m := by
  refine ⟨scans_object fun v hv => ?_, fun depth hdepth => ?_⟩
  · obtain ⟨e, he, rfl⟩ := List.mem_map.mp hv
    exact (h e he).scans
  · obtain ⟨k, rfl⟩ := Nat.exists_eq_add_of_le' (Nat.le_of_add_left_le hdepth)
    have hentries : ∀ e ∈ m.entries, read k (f e.2).draft = .ok e.2 :=
      fun e he => (h e he).read k (by omega)
    have hall := readMembers_entries hentries .empty
    have hmap : KeyMap.empty.putAll m.entries = m := m.ofList_entries
    rw [ofKeyMap, draft, keyMap, enter]
    simp only [bind, Except.bind, hall, hmap]
    rfl

theorem reads_ofTexts (m : KeyMap String) : Reads (keyMap text) (need + 1) (ofTexts m) m :=
  reads_keyMap fun e _ => reads_text e.2

/-! ## Values as they are -/

theorem value_bool (b : Bool) : Reads value need (.bool b) (.bool b) :=
  ⟨scans_bool b, fun _ _ => rfl⟩

theorem value_string (s : String) : Reads value need (.string s) (.string s) :=
  ⟨scans_string s, fun _ _ => rfl⟩

theorem values_drafts {depth : Nat} {items : List Json}
    (h : ∀ v ∈ items, value depth v.draft = .ok v) : values depth (drafts items) = .ok items := by
  induction items with
  | nil => rfl
  | cons v rest ih =>
      obtain ⟨hv, hrest⟩ := List.forall_mem_cons.mp h
      rw [drafts, values, hv, ih hrest]
      rfl

theorem value_array {items : List Json} (h : ∀ v ∈ items, Reads value need v v) :
    Reads value (need + 1) (.array items) (.array items) := by
  refine ⟨scans_array fun v hv => (h v hv).scans, fun depth hdepth => ?_⟩
  obtain ⟨k, rfl⟩ := Nat.exists_eq_add_of_le' (Nat.le_of_add_left_le hdepth)
  have hall : values k (drafts items) = .ok items :=
    values_drafts fun v hv => (h v hv).read k (by omega)
  rw [draft, value, enter]
  simp only [bind, Except.bind, hall]
  rfl

theorem value_strings (items : List String) :
    Reads value (need + 1) (strings items) (strings items) := by
  refine value_array fun v hv => ?_
  obtain ⟨s, -, rfl⟩ := List.mem_map.mp hv
  exact value_string s

theorem memberValues_memberDrafts {depth : Nat} {members : List (String × Json)}
    (h : ∀ m ∈ members, value depth m.2.draft = .ok m.2) :
    memberValues depth (memberDrafts members) = .ok members := by
  induction members with
  | nil => rfl
  | cons m rest ih =>
      obtain ⟨hm, hrest⟩ := List.forall_mem_cons.mp h
      rw [memberDrafts, memberValues, hm, ih hrest]
      rfl

/-- An object is read back if its members stand in the order of their names. -/
theorem value_object {members : List (String × Json)}
    (hordered : (members.map (·.1)).Pairwise (· < ·))
    (h : ∀ m ∈ members, Reads value need m.2 m.2) :
    Reads value (need + 1) (.object members) (.object members) := by
  refine ⟨scans_object fun m hm => (h m hm).scans, fun depth hdepth => ?_⟩
  obtain ⟨k, rfl⟩ := Nat.exists_eq_add_of_le' (Nat.le_of_add_left_le hdepth)
  have hall : memberValues k (memberDrafts members) = .ok members :=
    memberValues_memberDrafts fun m hm => (h m hm).read k (by omega)
  have hobject : objectOf members = .object members :=
    congrArg (fun m : KeyMap Json => Json.object m.entries)
      (KeyMap.ofList_entries ⟨members, List.pairwise_map.mp hordered⟩)
  rw [draft, value, enter]
  simp only [bind, Except.bind, hall, check]
  exact congrArg Except.ok hobject

/-- A value that reads back as itself is what its text is parsed as. -/
theorem parse_render {v : Json} (h : Reads value need v v) (hneed : need ≤ depthLimit) :
    parse v.render = .ok v := h.read_render hneed

/-! ## Members of records -/

/-- Take in members one after the other. -/
def takeAll (set : Setter σ) (depth : Nat) : List (String × Json) → σ → Except Problem σ
  | [], s => .ok s
  | (name, v) :: rest, s => do
      let s ← set name depth v.draft s
      takeAll set depth rest s

/-- Taking in members, which are some of given names in their order and have certain ones among them,
leads from one state of a record to another. -/
structure Takes (set : Setter σ) (need : Nat) (names certain : List String)
    (ms : List (String × Json)) (s s' : σ) : Prop where
  scans : ∀ m ∈ ms, Scans m.2
  named : (ms.map (·.1)).Sublist names
  written : ∀ name ∈ certain, name ∈ ms.map (·.1)
  takes : ∀ depth, need ≤ depth → takeAll set depth ms s = .ok s'

theorem takeAll_append {set : Setter σ} {depth : Nat} {ms ms' : List (String × Json)} {s s' : σ}
    (h : takeAll set depth ms s = .ok s') :
    takeAll set depth (ms ++ ms') s = takeAll set depth ms' s' := by
  induction ms generalizing s with
  | nil =>
      cases h
      rfl
  | cons m rest ih =>
      obtain ⟨t, ht, hrest⟩ := Except.bind_eq_ok_iff.mp h
      rw [List.cons_append, takeAll, ht]
      exact ih hrest

variable {set : Setter σ} {names names' certain certain' : List String}
  {ms ms' : List (String × Json)} {s s' s'' : σ} {name : String}

theorem takes_nil (set : Setter σ) (s : σ) : Takes set need [] [] [] s s :=
  ⟨nofun, .slnil, nofun, fun _ _ => rfl⟩

/-- A member that is left out changes nothing. -/
theorem takes_nothing (set : Setter σ) (name : String) (h : s' = s) :
    Takes set need [name] [] [] s s' :=
  ⟨nofun, List.nil_sublist _, nofun, fun _ _ => by rw [h]; rfl⟩

theorem takes_singleton {read : Reader α} {put : α → σ} {v : Json} {a : α}
    (hset : ∀ depth d, set name depth d s = read depth d >>= fun a => .ok (put a))
    (h : Reads read need v a) : Takes set need [name] [name] [(name, v)] s (put a) where
  scans := List.forall_mem_singleton.mpr h.scans
  named := .refl _
  written _ hname := hname
  takes depth hdepth := by
    rw [takeAll, hset, h.read depth hdepth]
    rfl

namespace Takes

/-- What is certain may be forgotten. -/
theorem forget (h : Takes set need names certain ms s s') : Takes set need names [] ms s s' :=
  { h with written := nofun }

theorem append (h : Takes set need names certain ms s s')
    (h' : Takes set need names' certain' ms' s' s'') :
    Takes set need (names ++ names') (certain ++ certain') (ms ++ ms') s s'' where
  scans := List.forall_mem_append.mpr ⟨h.scans, h'.scans⟩
  named := by
    rw [List.map_append]
    exact h.named.append h'.named
  written := by
    rw [List.map_append]
    intro name hname
    rcases List.mem_append.mp hname with hname | hname
    · exact List.mem_append_left _ (h.written name hname)
    · exact List.mem_append_right _ (h'.written name hname)
  takes depth hdepth := by
    rw [takeAll_append (h.takes depth hdepth), h'.takes depth hdepth]

/-- A member is taken in as what its value reads back as. -/
theorem member {read : Reader α} {put : α → σ} {v : Json} {a : α}
    (h : Takes set need names certain ms s s') (name : String) (ha : Reads read need v a)
    (hset : ∀ depth d, set name depth d s' = read depth d >>= fun a => .ok (put a)) :
    Takes set need (names ++ [name]) (certain ++ [name]) (ms ++ [(name, v)]) s (put a) :=
  h.append (takes_singleton hset ha)

/-- A text that is left out when it is empty is empty when it is left out. -/
theorem unlessBlank {put : String → σ} (h : Takes set need names certain ms s s')
    (name value : String)
    (hset : ∀ depth d, set name depth d s' = text depth d >>= fun a => .ok (put a))
    (hblank : put "" = s') : Takes set need (names ++ [name]) (certain ++ [])
      (ms ++ Json.unlessBlank name value) s (put value) := by
  refine h.append ?_
  unfold Json.unlessBlank
  by_cases hvalue : value = ""
  · rw [if_pos (by simp [hvalue])]
    exact takes_nothing set name (by rw [hvalue, hblank])
  · rw [if_neg (by simpa using hvalue)]
    exact (takes_singleton hset (reads_text value)).forget

theorem unlessNone {read : Reader α} {put : List α → σ} {f : α → Json}
    (h : Takes set (need + 1) names certain ms s s') (name : String) (items : List α)
    (ha : ∀ a, Reads read need (f a) a)
    (hset : ∀ depth d, set name depth d s' = list read depth d >>= fun a => .ok (put a))
    (hnone : put [] = s') : Takes set (need + 1) (names ++ [name]) (certain ++ [])
      (ms ++ Json.unlessNone name items f) s (put items) := by
  refine h.append ?_
  cases items with
  | nil => exact takes_nothing set name hnone
  | cons a rest => exact (takes_singleton hset (reads_items ha (a :: rest))).forget

theorem unlessEmpty {put : KeyMap String → σ} (h : Takes set (need + 1) names certain ms s s')
    (name : String) (m : KeyMap String)
    (hset : ∀ depth d, set name depth d s' = keyMap text depth d >>= fun a => .ok (put a))
    (hempty : put .empty = s') : Takes set (need + 1) (names ++ [name]) (certain ++ [])
      (ms ++ Json.unlessEmpty name m) s (put m) := by
  refine h.append ?_
  unfold Json.unlessEmpty
  split
  next hm =>
    have hnone : m = .empty := KeyMap.ext_entries (List.isEmpty_iff.mp hm)
    exact takes_nothing set name (by rw [hnone, hempty])
  · exact (takes_singleton hset (reads_ofTexts m)).forget

theorem whenSome {read : Reader α} {put : Option α → σ} {f : α → Json}
    (h : Takes set need names certain ms s s') (name : String) (o : Option α)
    (ha : ∀ a, Reads read need (f a) a) (hnull : ∀ a, (f a).draft ≠ .null)
    (hset : ∀ depth d, set name depth d s' = nullable read depth d >>= fun a => .ok (put a))
    (hnone : put none = s') : Takes set need (names ++ [name]) (certain ++ [])
      (ms ++ Json.whenSome name o f) s (put o) := by
  refine h.append ?_
  cases o with
  | none => exact takes_nothing set name hnone
  | some a => exact (takes_singleton hset (reads_nullable ha hnull (some a))).forget

end Takes

/-! ## Records -/

theorem recordMembers_takeAll {fields : List Field} {depth : Nat} {seen : List String}
    (hknown : ∀ m ∈ ms, m.1 ∈ fields.map (·.name)) (hnodup : (ms.map (·.1)).Nodup)
    (hseen : ∀ m ∈ ms, m.1 ∉ seen) (h : takeAll set depth ms s = .ok s') :
    recordMembers fields set depth seen s (memberDrafts ms) =
      .ok ((ms.map (·.1)).reverse ++ seen, s') := by
  induction ms generalizing seen s with
  | nil =>
      cases h
      rfl
  | cons m rest ih =>
      obtain ⟨name, v⟩ := m
      obtain ⟨hm, hrest⟩ := List.forall_mem_cons.mp hknown
      obtain ⟨hfresh, hothers⟩ := List.forall_mem_cons.mp hseen
      obtain ⟨hout, hnodup⟩ := List.nodup_cons.mp hnodup
      obtain ⟨t, ht, h⟩ := Except.bind_eq_ok_iff.mp h
      have hfield : fields.any (·.name == name) = true := by
        obtain ⟨f, hf, hname⟩ := List.mem_map.mp hm
        exact List.any_eq_true.mpr ⟨f, hf, by simpa using hname⟩
      have hnew : seen.contains name = false := by simpa using hfresh
      have hlater : ∀ m ∈ rest, m.1 ∉ name :: seen := by
        intro m hm hmem
        rcases List.mem_cons.mp hmem with heq | hmem
        · exact hout (List.mem_map.mpr ⟨m, hm, heq⟩)
        · exact hothers m hm hmem
      have hread := ih hrest hnodup hlater h
      rw [memberDrafts, recordMembers]
      simp only [bind, Except.bind, hfield, if_true, hnew, Bool.false_eq_true, if_false, ht, hread]
      simp

/-- A record reads back as what its members lead to, if the required fields are certain to be
written. -/
theorem reads_record {fields : List Field} {start : σ}
    (h : Takes set need names certain ms start s) (hfields : fields.map (·.name) = names)
    (hnodup : names.Nodup) (hrequired : ∀ f ∈ fields, f.inObject = true → f.name ∈ certain) :
    Reads (record fields start set) (need + 1) (.object ms) s := by
  refine ⟨scans_object h.scans, fun depth hdepth => ?_⟩
  obtain ⟨k, rfl⟩ := Nat.exists_eq_add_of_le' (Nat.le_of_add_left_le hdepth)
  have hknown : ∀ m ∈ ms, m.1 ∈ fields.map (·.name) := fun m hm => by
    rw [hfields]
    exact h.named.subset (List.mem_map_of_mem hm)
  have hmembers := recordMembers_takeAll hknown (hnodup.sublist h.named)
    (fun _ _ => List.not_mem_nil) (h.takes k (by omega))
  have hall : (fields.all fun field =>
      !field.inObject ||
        ((ms.map fun m : String × Json => m.1).reverse ++ []).contains field.name) = true := by
    rw [List.all_eq_true]
    intro f hf
    cases hobject : f.inObject with
    | false => rfl
    | true => simpa using h.written f.name (hrequired f hf hobject)
  rw [draft, record, recordOf, enter]
  simp only [bind, Except.bind, hmembers, check, hall, if_true]
  rfl

end Conformance.Json
