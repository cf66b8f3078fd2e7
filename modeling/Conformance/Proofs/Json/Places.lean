import Conformance.Json

/-!
# The places of a value

A value is spread out into its places: each with the way that leads to it from the value, step by
step, and with its surface, which is what can be said of it without looking further down. The list
of places in the order of the text shows all of a value at once, its shape and its leaves alike.
`induction` is induction over what stands in arrays and objects.
-/

namespace Conformance.Json

/-! ## Induction -/

/-- What holds of plain values, and of arrays and objects if it holds of what stands in them, holds
of every value. -/
@[elab_as_elim]
theorem induction {motive : Json → Prop} (null : motive .null) (bool : ∀ b, motive (.bool b))
    (number : ∀ n, motive (.number n)) (string : ∀ s, motive (.string s))
    (array : ∀ items, (∀ v ∈ items, motive v) → motive (.array items))
    (object : ∀ members, (∀ m ∈ members, motive m.2) → motive (.object members)) (v : Json) :
    motive v :=
  @Json.rec motive (fun items => ∀ v ∈ items, motive v) (fun members => ∀ m ∈ members, motive m.2)
    (fun m => motive m.2) null bool number string array object nofun
    (fun _ _ hv hitems => List.forall_mem_cons.mpr ⟨hv, hitems⟩) nofun
    (fun _ _ hm hmembers => List.forall_mem_cons.mpr ⟨hm, hmembers⟩) (fun _ _ hv => hv) v

/-! ## Places -/

/-- A step from a value to one that stands in it. -/
inductive Step where
  /-- To an item of an array. -/
  | item (index : Nat)
  /-- To the value of a member. -/
  | member (name : String)
  deriving DecidableEq, Repr

/-- A place in a value: the way to it, and its surface. -/
abbrev Place := List Step × Json

/-- A value without what stands in it: of an array its length, of an object its names, and all of
any other value. -/
def surface : Json → Json
  | .array items => .array (items.map fun _ => .null)
  | .object members => .object (members.map fun m => (m.1, .null))
  | v => v

/-- Places as they are seen from one step above. -/
def beneath (step : Step) (ps : List Place) : List Place := ps.map fun p => (step :: p.1, p.2)

mutual

/-- The places of a value, in the order of its text. -/
def places : Json → List Place
  | .array items => ([], surface (.array items)) :: itemPlaces 0 items
  | .object members => ([], surface (.object members)) :: memberPlaces members
  | v => [([], v)]

/-- The places of the items of an array from an index on. -/
def itemPlaces (index : Nat) : List Json → List Place
  | [] => []
  | v :: rest => beneath (.item index) (places v) ++ itemPlaces (index + 1) rest

/-- The places of the members of an object. -/
def memberPlaces : List (String × Json) → List Place
  | [] => []
  | (name, v) :: rest => beneath (.member name) (places v) ++ memberPlaces rest

end

theorem ne_nil_of_mem_beneath {step : Step} {ps : List Place} {p : Place} (h : p ∈ beneath step ps) :
    p.1 ≠ [] := by
  obtain ⟨q, -, rfl⟩ := List.mem_map.mp h
  exact List.cons_ne_nil _ _

theorem ne_nil_of_mem_itemPlaces {items : List Json} {index : Nat} {p : Place}
    (h : p ∈ itemPlaces index items) : p.1 ≠ [] := by
  induction items generalizing index with
  | nil => exact absurd h List.not_mem_nil
  | cons v rest ih =>
      rcases List.mem_append.mp h with h | h
      · exact ne_nil_of_mem_beneath h
      · exact ih h

theorem ne_nil_of_mem_memberPlaces {members : List (String × Json)} {p : Place}
    (h : p ∈ memberPlaces members) : p.1 ≠ [] := by
  induction members with
  | nil => exact absurd h List.not_mem_nil
  | cons m rest ih =>
      rcases List.mem_append.mp h with h | h
      · exact ne_nil_of_mem_beneath h
      · exact ih h

/-- The first place is that of the value itself, and all others are further down. -/
theorem places_eq_cons (v : Json) :
    ∃ rest, places v = ([], surface v) :: rest ∧ ∀ p ∈ rest, p.1 ≠ [] := by
  cases v with
  | array items => exact ⟨_, rfl, fun _ => ne_nil_of_mem_itemPlaces⟩
  | object members => exact ⟨_, rfl, fun _ => ne_nil_of_mem_memberPlaces⟩
  | _ => exact ⟨[], rfl, nofun⟩

end Conformance.Json
