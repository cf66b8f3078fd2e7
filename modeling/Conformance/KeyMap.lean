/-!
# Maps with text keys

A finite map from text to values whose entries are kept in the order of their keys by code point,
each key once. Two maps with the same entries are therefore equal, and every walk over a map visits
the keys in that order.
-/

namespace Conformance

universe u v

/-- A finite map from text, its entries ordered by key. -/
structure KeyMap (α : Type u) where
  /-- The entries, smallest key first. -/
  entries : List (String × α)
  /-- Keys strictly increase along the entries. -/
  ordered : entries.Pairwise fun a b => a.1 < b.1
  deriving DecidableEq, Repr

namespace KeyMap

variable {α : Type u} {β : Type v}

/-! ## Entry lists -/

/-- Set one key in an ordered entry list, replacing what it held. -/
def putEntry (key : String) (value : α) : List (String × α) → List (String × α)
  | [] => [(key, value)]
  | (k, v) :: rest =>
      if key < k then (key, value) :: (k, v) :: rest
      else if key = k then (key, value) :: rest
      else (k, v) :: putEntry key value rest

theorem mem_putEntry {key : String} {value : α} {e : String × α} :
    {l : List (String × α)} → e ∈ putEntry key value l → e = (key, value) ∨ e ∈ l
  | [], h => by simpa [putEntry] using h
  | (k, v) :: rest, h => by
      unfold putEntry at h
      split at h
      · simpa using h
      · split at h
        · rcases List.mem_cons.mp h with h | h
          · exact .inl h
          · exact .inr (List.mem_cons_of_mem _ h)
        · rcases List.mem_cons.mp h with h | h
          · exact .inr (h ▸ List.mem_cons_self)
          · rcases mem_putEntry h with h | h
            · exact .inl h
            · exact .inr (List.mem_cons_of_mem _ h)

theorem ordered_putEntry (key : String) (value : α) :
    {l : List (String × α)} → l.Pairwise (fun a b => a.1 < b.1) →
      (putEntry key value l).Pairwise fun a b => a.1 < b.1
  | [], _ => by simp [putEntry]
  | (k, v) :: rest, h => by
      have hk : ∀ e ∈ rest, k < e.1 := fun e he => List.rel_of_pairwise_cons h he
      have hr := List.Pairwise.of_cons h
      unfold putEntry
      split
      next hlt =>
        refine List.Pairwise.cons ?_ h
        intro e he
        rcases List.mem_cons.mp he with rfl | he
        · exact hlt
        · exact String.lt_trans hlt (hk e he)
      next hge =>
        split
        next heq => exact List.Pairwise.cons (fun e he => heq ▸ hk e he) hr
        next hne =>
          refine List.Pairwise.cons ?_ (ordered_putEntry key value hr)
          intro e he
          rcases mem_putEntry he with rfl | he
          · refine Decidable.byContradiction fun hn => hne ?_
            exact String.le_antisymm (String.not_lt.mp hn) (String.not_lt.mp hge)
          · exact hk e he

/-! ## Operations -/

/-- The map without entries. -/
def empty : KeyMap α := ⟨[], .nil⟩

instance : Inhabited (KeyMap α) := ⟨empty⟩

instance : EmptyCollection (KeyMap α) := ⟨empty⟩

/-- Set `key` to `value`, replacing what it held. -/
def put (m : KeyMap α) (key : String) (value : α) : KeyMap α :=
  ⟨putEntry key value m.entries, ordered_putEntry key value m.ordered⟩

/-- What `key` holds. -/
def get? (m : KeyMap α) (key : String) : Option α :=
  (m.entries.find? fun e => e.1 == key).map (·.2)

/-- The map without `key`. -/
def erase (m : KeyMap α) (key : String) : KeyMap α :=
  ⟨m.entries.filter fun e => !(e.1 == key), m.ordered.filter _⟩

/-- Whether `key` is set. -/
def contains (m : KeyMap α) (key : String) : Bool := (m.get? key).isSome

/-- The keys, smallest first. -/
def keys (m : KeyMap α) : List String := m.entries.map (·.1)

/-- The number of keys. -/
def size (m : KeyMap α) : Nat := m.entries.length

/-- Whether no key is set. -/
def isEmpty (m : KeyMap α) : Bool := m.entries.isEmpty

/-- Set the given pairs one after the other, so a later pair wins over an earlier one. -/
def putAll (m : KeyMap α) (pairs : List (String × α)) : KeyMap α :=
  pairs.foldl (fun m e => m.put e.1 e.2) m

/-- The map of a list of pairs; of two pairs with one key the later one counts. -/
def ofList (pairs : List (String × α)) : KeyMap α := empty.putAll pairs

/-- Copy every entry of `other`, which wins where both set a key. -/
def overlay (m other : KeyMap α) : KeyMap α := m.putAll other.entries

/-- Apply `f` to every value. -/
def map (f : α → β) (m : KeyMap α) : KeyMap β :=
  ⟨m.entries.map fun e => (e.1, f e.2), by
    rw [List.pairwise_map]; exact m.ordered⟩

/-- Apply `f` to the entry list's values in key order, keeping the keys. -/
def mapEntries {ε : Type} (f : String → α → Except ε β) :
    List (String × α) → Except ε (List (String × β))
  | [] => .ok []
  | (k, v) :: rest =>
      match f k v with
      | .error e => .error e
      | .ok w =>
          match mapEntries f rest with
          | .error e => .error e
          | .ok ws => .ok ((k, w) :: ws)

theorem mem_mapEntries {ε : Type} {f : String → α → Except ε β} :
    {l : List (String × α)} → {r : List (String × β)} → mapEntries f l = .ok r →
      ∀ e ∈ r, ∃ a, (e.1, a) ∈ l ∧ f e.1 a = .ok e.2
  | [], r, h => by
      simp only [mapEntries, Except.ok.injEq] at h
      subst h
      simp
  | (k, v) :: rest, r, h => by
      unfold mapEntries at h
      split at h
      · cases h
      next w hw =>
        split at h
        · cases h
        next ws hws =>
          cases h
          intro e he
          rcases List.mem_cons.mp he with rfl | he
          · exact ⟨v, List.mem_cons_self, hw⟩
          · obtain ⟨a, ha, hf⟩ := mem_mapEntries hws e he
            exact ⟨a, List.mem_cons_of_mem _ ha, hf⟩

theorem ordered_mapEntries {ε : Type} {f : String → α → Except ε β} :
    {l : List (String × α)} → {r : List (String × β)} →
      l.Pairwise (fun a b => a.1 < b.1) → mapEntries f l = .ok r →
        r.Pairwise fun a b => a.1 < b.1
  | [], r, _, h => by
      simp only [mapEntries, Except.ok.injEq] at h
      subst h
      exact .nil
  | (k, v) :: rest, r, hp, h => by
      unfold mapEntries at h
      split at h
      · cases h
      next w hw =>
        split at h
        · cases h
        next ws hws =>
          cases h
          refine List.Pairwise.cons ?_ (ordered_mapEntries (List.Pairwise.of_cons hp) hws)
          intro e he
          obtain ⟨a, ha, -⟩ := mem_mapEntries hws e he
          exact List.rel_of_pairwise_cons hp ha

/-- Apply `f` to every value in key order, giving up at the first failure. -/
def mapM {ε : Type} (f : String → α → Except ε β) (m : KeyMap α) : Except ε (KeyMap β) :=
  match h : mapEntries f m.entries with
  | .error e => .error e
  | .ok entries => .ok ⟨entries, ordered_mapEntries m.ordered h⟩

end KeyMap

end Conformance
