import Conformance.Json.Path
import Conformance.Proofs.Json.Places
import Conformance.Proofs.Text.Decimal
import Conformance.Proofs.Text.Split
import Mathlib.Data.List.Forall2

/-!
# What paths lead to

A path is followed segment by segment, so one with a dot in it may as well be followed in two turns
(`lookup_joined`). What it leads to is said by the ways into a value (`StandsAt`): a path leads to what
stands at the end of a way that its segments spell, or to the length of an array that the segments in
front of a last `#` lead to, and to nothing else (`follow_eq_some_iff`). Each way has its own path, but
for those that the dots of a name would cut (`lookup_addresses`).
-/

namespace Conformance.Json

/-! ## One segment -/

/-- The item or member that a segment names in a value. -/
def child? : Json → List Char → Option Json
  | .array items, segment => (index? segment).bind (items[·]?)
  | .object members, segment => (Json.object members).member? (String.ofList segment)
  | _, _ => none

theorem follow_nil (v : Json) : v.follow [] = some v := by
  cases v <;> rfl

/-- The mark for lengths counts the items of an array, if it stands last. -/
theorem follow_length (items : List Json) (rest : List (List Char)) :
    (Json.array items).follow (['#'] :: rest) =
      if rest = [] then some (.nat items.length) else none := by
  rw [follow, if_pos rfl]
  exact if_congr List.isEmpty_iff rfl rfl

/-- Any other segment leads to an item or member, and the rest is followed from there. -/
theorem follow_cons {v : Json} {segment : List Char}
    (h : ¬ (segment = ['#'] ∧ ∃ items, v = .array items)) (rest : List (List Char)) :
    v.follow (segment :: rest) = (v.child? segment).bind (·.follow rest) := by
  cases v with
  | array items =>
      have hsegment : segment ≠ ['#'] := fun hsegment => h ⟨hsegment, items, rfl⟩
      rw [follow, if_neg hsegment, child?]
      cases index? segment with
      | none => rfl
      | some i => cases hitem : items[i]? <;> simp [hitem]
  | object members =>
      rw [follow, child?]
      cases (Json.object members).member? (String.ofList segment) <;> rfl
  | _ => rfl

/-! ## One path after another -/

/-- The mark at the end of the front may have asked for a length, which is a number and leads nowhere;
with more segments behind it, it asks for nothing. -/
theorem follow_append (v : Json) (front back : List (List Char)) :
    v.follow (front ++ back) = (v.follow front).bind (·.follow back) := by
  induction front generalizing v with
  | nil =>
      rw [List.nil_append, follow_nil]
      rfl
  | cons segment rest ih =>
      rw [List.cons_append]
      by_cases hlength : segment = ['#'] ∧ ∃ items, v = .array items
      · obtain ⟨rfl, items, rfl⟩ := hlength
        rw [follow_length, follow_length]
        cases rest with
        | nil => cases back <;> rfl
        | cons next rest => rfl
      · rw [follow_cons hlength, follow_cons hlength, Option.bind_assoc]
        simp only [ih]

theorem segments_of_ne_empty {path : String} (h : path ≠ "") :
    segments path.toList = Text.splitOn '.' path.toList := by
  rw [segments, if_neg]
  simpa using h

/-- **Paths compose.** Of two paths that are not empty, joined with a dot, the second one is followed
from where the first one leads, and leads nowhere if the first one does. -/
theorem lookup_joined (v : Json) {front back : String} (hfront : front ≠ "") (hback : back ≠ "") :
    v.lookup (front ++ "." ++ back) = (v.lookup front).bind (·.lookup back) := by
  have hne : front ++ "." ++ back ≠ "" := by simp [hback]
  have hsegments : segments (front ++ "." ++ back).toList =
      segments front.toList ++ segments back.toList := by
    rw [segments_of_ne_empty hne, segments_of_ne_empty hfront, segments_of_ne_empty hback,
      ← Text.splitOn_append, String.toList_append, String.toList_append, List.append_assoc]
    rfl
  unfold lookup
  rw [hsegments, follow_append]

/-- Accounts with a member whose name is the mark for lengths. -/
def markedAccounts : Json :=
  .object [("Data", .object [("Account", .array [.object [("#", .array [.null, .null])]])])]

theorem markedAccounts_joined :
    "Data.Account.+00" ≠ "" ∧ "#.#" ≠ "" ∧
      markedAccounts.lookup ("Data.Account.+00" ++ "." ++ "#.#") =
        (markedAccounts.lookup "Data.Account.+00").bind (·.lookup "#.#") ∧
      markedAccounts.lookup "Data.Account.+00.#.#" = some (.nat 2) := by
  refine ⟨by decide, by decide, lookup_joined markedAccounts (by decide) (by decide), ?_⟩
  rfl

/-! ## Ways into a value -/

/-- A value stands in another one, at the end of a way into it. Of members with one name, the first
one is meant; an object that was read has no others. -/
inductive StandsAt : Json → List Step → Json → Prop where
  /-- A value stands in itself. -/
  | here (v : Json) : StandsAt v [] v
  /-- It stands in an item of an array. -/
  | item {items : List Json} {i : Nat} {v w : Json} {way : List Step} :
      items[i]? = some v → StandsAt v way w → StandsAt (.array items) (.item i :: way) w
  /-- It stands in the value of a member of an object. -/
  | member {members before after : List (String × Json)} {name : String} {v w : Json}
      {way : List Step} : members = before ++ (name, v) :: after → (∀ m ∈ before, m.1 ≠ name) →
      StandsAt v way w → StandsAt (.object members) (.member name :: way) w

/-- Whether a segment says a step: the name of a member, or any numeral for the index of an item. -/
def Step.IsSpelled : Step → List Char → Prop
  | .item i, segment => index? segment = some i
  | .member name, segment => segment = name.toList

/-- Segments lead from one value to another that stands in it, as they spell the way. -/
def Reaches (v : Json) (segments : List (List Char)) (w : Json) : Prop :=
  ∃ way, List.Forall₂ Step.IsSpelled way segments ∧ v.StandsAt way w

/-- Segments of which the last one is `#` lead to the length of an array, which those in front of it
lead to. -/
def Counts (v : Json) (segments : List (List Char)) (n : Json) : Prop :=
  ∃ front items, segments = front ++ [['#']] ∧ v.Reaches front (.array items) ∧
    n = .nat items.length

theorem member?_eq_some_iff {members : List (String × Json)} {name : String} {v : Json} :
    (Json.object members).member? name = some v ↔
      ∃ before after, members = before ++ (name, v) :: after ∧ ∀ m ∈ before, m.1 ≠ name := by
  rw [member?, Option.map_eq_some_iff]
  constructor
  · rintro ⟨⟨name', v'⟩, hfind, rfl⟩
    obtain ⟨hname, before, after, rfl, hbefore⟩ := List.find?_eq_some_iff_append.mp hfind
    obtain rfl : name' = name := by simpa using hname
    exact ⟨before, after, rfl, by simpa using hbefore⟩
  · rintro ⟨before, after, rfl, hbefore⟩
    refine ⟨(name, v), List.find?_eq_some_iff_append.mpr ⟨by simp, before, after, rfl, ?_⟩, rfl⟩
    simpa using hbefore

section Reaches

variable {v w : Json} {segment : List Char} {rest : List (List Char)}

theorem reaches_nil_iff : v.Reaches [] w ↔ w = v := by
  constructor
  · rintro ⟨way, hspelled, hstands⟩
    cases hspelled
    cases hstands
    rfl
  · rintro rfl
    exact ⟨[], .nil, .here w⟩

theorem reaches_cons_iff :
    v.Reaches (segment :: rest) w ↔ ∃ u, v.child? segment = some u ∧ u.Reaches rest w := by
  constructor
  · rintro ⟨way, hspelled, hstands⟩
    cases hspelled with
    | cons hstep hrest =>
        cases hstands with
        | item hitem hstands =>
            exact ⟨_, Option.bind_eq_some_iff.mpr ⟨_, hstep, hitem⟩, _, hrest, hstands⟩
        | @member _ before after name u _ _ hmembers hfirst hstands =>
            obtain rfl := hstep
            refine ⟨u, ?_, _, hrest, hstands⟩
            rw [child?, String.ofList_toList]
            exact member?_eq_some_iff.mpr ⟨before, after, hmembers, hfirst⟩
  · rintro ⟨u, hchild, way, hspelled, hstands⟩
    cases v with
    | array items =>
        obtain ⟨i, hindex, hitem⟩ := Option.bind_eq_some_iff.mp hchild
        exact ⟨.item i :: way, .cons hindex hspelled, .item hitem hstands⟩
    | object members =>
        obtain ⟨before, after, hmembers, hfirst⟩ := member?_eq_some_iff.mp hchild
        refine ⟨.member (String.ofList segment) :: way, .cons ?_ hspelled, ?_⟩
        · exact String.toList_ofList.symm
        · exact .member hmembers hfirst hstands
    | _ => cases hchild

theorem not_counts_nil : ¬ v.Counts [] w := by
  rintro ⟨front, items, hsegments, -⟩
  simp at hsegments

/-- Of several segments, the first one is the last `#`, or it leads to where the others count. -/
theorem counts_cons_iff : v.Counts (segment :: rest) w ↔
    (segment = ['#'] ∧ rest = [] ∧ ∃ items, v = .array items ∧ w = .nat items.length) ∨
      ∃ u, v.child? segment = some u ∧ u.Counts rest w := by
  constructor
  · rintro ⟨front, items, hsegments, hreaches, rfl⟩
    rcases List.cons_eq_append_iff.mp hsegments with ⟨rfl, hlast⟩ | ⟨others, rfl, hrest⟩
    · obtain ⟨rfl, rfl⟩ := List.cons.inj hlast
      exact .inl ⟨rfl, rfl, items, (reaches_nil_iff.mp hreaches).symm, rfl⟩
    · obtain ⟨u, hchild, hreaches⟩ := reaches_cons_iff.mp hreaches
      exact .inr ⟨u, hchild, others, items, hrest, hreaches, rfl⟩
  · rintro (⟨rfl, rfl, items, rfl, rfl⟩ | ⟨u, hchild, front, items, rfl, hreaches, rfl⟩)
    · exact ⟨[], items, rfl, reaches_nil_iff.mpr rfl, rfl⟩
    · exact ⟨segment :: front, items, rfl, reaches_cons_iff.mpr ⟨u, hchild, hreaches⟩, rfl⟩

/-- One segment of a path: it leads to an item or member, from where the rest is followed, or it is the
last one and asks for a length. -/
theorem follow_cons_eq_some_iff : v.follow (segment :: rest) = some w ↔
    (∃ u, v.child? segment = some u ∧ u.follow rest = some w) ∨
      segment = ['#'] ∧ rest = [] ∧ ∃ items, v = .array items ∧ w = .nat items.length := by
  by_cases hlength : segment = ['#'] ∧ ∃ items, v = .array items
  · obtain ⟨rfl, items, rfl⟩ := hlength
    have hchild : (Json.array items).child? ['#'] = none := rfl
    rw [follow_length, hchild]
    simp [eq_comm]
  · rw [follow_cons hlength, Option.bind_eq_some_iff]
    constructor
    · exact .inl
    · rintro (hchild | ⟨hmark, -, items, harray, -⟩)
      · exact hchild
      · exact absurd ⟨hmark, items, harray⟩ hlength

end Reaches

/-- **What a path leads to.** Segments lead to the values whose ways they spell and to lengths of
arrays, and to nothing else. -/
theorem follow_eq_some_iff {v w : Json} {segments : List (List Char)} :
    v.follow segments = some w ↔ v.Reaches segments w ∨ v.Counts segments w := by
  induction segments generalizing v with
  | nil =>
      rw [follow_nil, reaches_nil_iff, Option.some_inj, or_iff_left not_counts_nil, eq_comm]
  | cons segment rest ih =>
      simp only [follow_cons_eq_some_iff, reaches_cons_iff, counts_cons_iff, ih, and_or_left,
        exists_or]
      rw [or_assoc]
      exact or_congr Iff.rfl or_comm

/-! ## Paths for ways -/

/-- A step as it is written in a path. -/
def Step.text : Step → String
  | .item i => Text.decimal i
  | .member name => name

/-- The path of a way: its steps with dots between them. -/
def pathOf (way : List Step) : String := Text.join "." (way.map Step.text)

/-- Whether a way can be written as a path: no name has a dot in it, and the empty name does not stand
alone. -/
structure HasPath (way : List Step) : Prop where
  /-- A dot would cut the name. -/
  undotted : ∀ name, .member name ∈ way → '.' ∉ name.toList
  /-- The empty path leads to the value itself. -/
  notEmpty : way ≠ [.member ""]

theorem index?_decimalDigits (i : Nat) : index? (Text.decimalDigits i) = some i := by
  unfold index?
  split
  next digits hplus =>
    have hdigit := Text.isDigit_of_mem_decimalDigits (n := i) (c := '+') (by simp [hplus])
    exact absurd hdigit (by decide)
  next => exact Text.readDecimal?_decimalDigits i

theorem Step.isSpelled_text (step : Step) : step.IsSpelled step.text.toList := by
  cases step with
  | item i =>
      rw [text, Text.decimal, String.toList_ofList]
      exact index?_decimalDigits i
  | member name => rfl

theorem HasPath.dot_not_mem {way : List Step} (h : HasPath way) :
    ∀ part ∈ way.map fun step => step.text.toList, '.' ∉ part := by
  intro part hpart
  obtain ⟨step, hstep, rfl⟩ := List.mem_map.mp hpart
  cases step with
  | item i =>
      intro hdot
      rw [Step.text, Text.decimal, String.toList_ofList] at hdot
      exact absurd (Text.isDigit_of_mem_decimalDigits hdot) (by decide)
  | member name => exact h.undotted name hstep

theorem toList_pathOf (way : List Step) :
    (pathOf way).toList = ['.'].intercalate (way.map fun step => step.text.toList) := by
  rw [pathOf, Text.join, String.toList_intercalate, List.map_map]
  rfl

theorem HasPath.pathOf_ne_empty {way : List Step} (h : HasPath way) (hne : way ≠ []) :
    pathOf way ≠ "" := by
  intro hempty
  have htext : ['.'].intercalate (way.map fun step => step.text.toList) = [] := by
    rw [← toList_pathOf, hempty]
    rfl
  rcases way with _ | ⟨step, _ | ⟨next, rest⟩⟩
  · exact hne rfl
  · rw [List.map_singleton, List.intercalate_singleton] at htext
    cases step with
    | item i =>
        rw [Step.text, Text.decimal, String.toList_ofList] at htext
        exact Nat.toDigits_ne_nil htext
    | member name =>
        rw [Step.text, String.toList_eq_nil_iff] at htext
        exact h.notEmpty (by rw [htext])
  · rw [List.map_cons, List.map_cons, List.intercalate_cons_cons] at htext
    simp at htext

theorem HasPath.segments_pathOf {way : List Step} (h : HasPath way) :
    segments (pathOf way).toList = way.map fun step => step.text.toList := by
  by_cases hway : way = []
  · subst hway
    rfl
  · rw [segments_of_ne_empty (h.pathOf_ne_empty hway), toList_pathOf,
      Text.splitOn_intercalate h.dot_not_mem (by simpa using hway)]

/-- **Addresses.** What stands at the end of a way that can be written as a path is what the path leads
to. And all that any path leads to is what stands at the end of a way that it spells, or, if it ends in
`#`, the length of an array that it leads to without that. -/
theorem lookup_addresses (v : Json) :
    (∀ way w, v.StandsAt way w → HasPath way → v.lookup (pathOf way) = some w) ∧
      ∀ path w, v.lookup path = some w ↔
        v.Reaches (segments path.toList) w ∨ v.Counts (segments path.toList) w := by
  refine ⟨?_, fun path w => follow_eq_some_iff⟩
  intro way w hstands hpath
  rw [lookup, hpath.segments_pathOf]
  refine follow_eq_some_iff.mpr (.inl ⟨way, ?_, hstands⟩)
  rw [List.forall₂_map_right_iff, List.forall₂_same]
  exact fun step _ => step.isSpelled_text

/-- A value under names that look like something else: none at all, an index, and the mark for
lengths. -/
def oddNames : Json :=
  .object [("", .object [("0", .array [.null, .object [("#", .bool true)]])])]

theorem oddNames_address :
    oddNames.StandsAt [.member "", .member "0", .item 1, .member "#"] (.bool true) ∧
      HasPath [.member "", .member "0", .item 1, .member "#"] ∧
      pathOf [.member "", .member "0", .item 1, .member "#"] = ".0.1.#" ∧
      oddNames.lookup ".0.1.#" = some (.bool true) ∧ oddNames.lookup ".0.#" = some (.nat 2) := by
  have hleaf : (Json.object [("#", .bool true)]).StandsAt [.member "#"] (.bool true) :=
    @StandsAt.member _ [] [] _ _ _ _ rfl nofun (.here _)
  have hitem : (Json.array [.null, .object [("#", .bool true)]]).StandsAt [.item 1, .member "#"]
      (.bool true) := .item rfl hleaf
  have hstands : oddNames.StandsAt [.member "", .member "0", .item 1, .member "#"] (.bool true) :=
    @StandsAt.member _ [] [] _ _ _ _ rfl nofun (@StandsAt.member _ [] [] _ _ _ _ rfl nofun hitem)
  have hpath : HasPath [.member "", .member "0", .item 1, .member "#"] := ⟨by simp, by decide⟩
  have htext : pathOf [.member "", .member "0", .item 1, .member "#"] = ".0.1.#" := by decide
  refine ⟨hstands, hpath, htext, ?_, rfl⟩
  rw [← htext]
  exact (lookup_addresses oddNames).1 _ _ hstands hpath

end Conformance.Json
