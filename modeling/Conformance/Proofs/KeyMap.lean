import Conformance.KeyMap
import Mathlib.Data.List.Forall2

/-!
# Reading maps

What `KeyMap.get?` finds after each operation: `get?_put`, `get?_overlay`, and `get?_mapM` for maps
whose values are computed one by one. When two maps are computed alike (`mapM_congr`) is a matter of
their entries.
-/

namespace Conformance.KeyMap

universe u v

variable {α : Type u} {β : Type v}

/-! ## Entry lists -/

/-- What an entry list holds under a key. -/
def lookup (key : String) (l : List (String × α)) : Option α :=
  (l.find? fun e => e.1 == key).map (·.2)

theorem lookup_cons (key k : String) (a : α) (rest : List (String × α)) :
    lookup key ((k, a) :: rest) = if k = key then some a else lookup key rest := by
  unfold lookup
  by_cases h : k = key <;> simp [h]

theorem lookup_putEntry (key k : String) (a : α) (l : List (String × α)) :
    lookup k (putEntry key a l) = if key = k then some a else lookup k l := by
  induction l with
  | nil => rw [putEntry, lookup_cons]
  | cons e rest ih =>
      obtain ⟨k', b⟩ := e
      unfold putEntry
      split
      · rw [lookup_cons]
      · split
        next heq =>
          subst heq
          rw [lookup_cons, lookup_cons]
          by_cases h : key = k <;> simp [h]
        next hne =>
          rw [lookup_cons, ih, lookup_cons]
          by_cases hk : k' = k
          · have hkey : key ≠ k := fun h => hne (h.trans hk.symm)
            rw [if_pos hk, if_pos hk, if_neg hkey]
          · rw [if_neg hk, if_neg hk]

/-- An entry list whose keys are all greater than a key does not hold that key. -/
theorem lookup_eq_none_of_lt {key : String} {l : List (String × α)}
    (h : ∀ e ∈ l, key < e.1) : lookup key l = none := by
  unfold lookup
  rw [Option.map_eq_none_iff, List.find?_eq_none]
  intro e he hk
  have hk' : e.1 = key := by simpa using hk
  exact String.lt_irrefl key (hk' ▸ h e he)

/-! ## Keys -/

theorem keys_pairwise (m : KeyMap α) : m.keys.Pairwise (· < ·) :=
  List.pairwise_map.mpr m.ordered

theorem mem_keys_iff {m : KeyMap α} {key : String} : key ∈ m.keys ↔ m.contains key = true := by
  simp [keys, contains, get?]

/-! ## Reading after writing -/

theorem get?_put (m : KeyMap α) (key k : String) (a : α) :
    (m.put key a).get? k = if key = k then some a else m.get? k :=
  lookup_putEntry key k a m.entries

@[simp] theorem get?_put_self (m : KeyMap α) (key : String) (a : α) :
    (m.put key a).get? key = some a := by
  rw [get?_put, if_pos rfl]

theorem get?_put_of_ne (m : KeyMap α) {key k : String} (h : key ≠ k) (a : α) :
    (m.put key a).get? k = m.get? k := by
  rw [get?_put, if_neg h]

theorem putEntry_putEntry (key : String) (a b : α) (l : List (String × α)) :
    putEntry key b (putEntry key a l) = putEntry key b l := by
  induction l with
  | nil => simp [putEntry]
  | cons e rest ih =>
      obtain ⟨k, c⟩ := e
      by_cases hlt : key < k
      · simp [putEntry, hlt]
      · by_cases heq : key = k
        · subst heq
          simp [putEntry]
        · simp [putEntry, hlt, heq, ih]

/-- Of two values that are put under one key, the later one counts. -/
theorem put_put (m : KeyMap α) (key : String) (a b : α) : (m.put key a).put key b = m.put key b := by
  unfold put
  simp only [putEntry_putEntry]

/-- Setting ordered entries one after the other sets what they hold. -/
theorem get?_putAll {pairs : List (String × α)} (hp : pairs.Pairwise fun a b => a.1 < b.1)
    (m : KeyMap α) (k : String) : (m.putAll pairs).get? k = (lookup k pairs).or (m.get? k) := by
  induction pairs generalizing m with
  | nil => rfl
  | cons e rest ih =>
      obtain ⟨key, a⟩ := e
      obtain ⟨hkey, hrest⟩ := List.pairwise_cons.mp hp
      have hput : (m.putAll ((key, a) :: rest)) = (m.put key a).putAll rest := rfl
      rw [hput, ih hrest, lookup_cons, get?_put]
      by_cases h : key = k
      · subst h
        rw [if_pos rfl, lookup_eq_none_of_lt hkey, if_pos rfl]
        rfl
      · rw [if_neg h, if_neg h]

theorem mem_putAll {m : KeyMap α} {pairs : List (String × α)} {e : String × α}
    (h : e ∈ (m.putAll pairs).entries) : e ∈ m.entries ∨ e ∈ pairs := by
  induction pairs generalizing m with
  | nil => exact .inl h
  | cons e' rest ih =>
      rcases @ih (m.put e'.1 e'.2) h with h | h
      · rcases mem_putEntry h with rfl | h
        · exact .inr List.mem_cons_self
        · exact .inl h
      · exact .inr (List.mem_cons_of_mem _ h)

/-- Where both maps set a key, the one laid over the other wins. -/
theorem get?_overlay (m other : KeyMap α) (k : String) :
    (m.overlay other).get? k = (other.get? k).or (m.get? k) :=
  get?_putAll other.ordered m k

/-! ## Entries in order -/

theorem ext_entries {m m' : KeyMap α} (h : m.entries = m'.entries) : m = m' := by
  cases m
  cases m'
  cases h
  rfl

/-- A key that is greater than all others goes to the end. -/
theorem putEntry_last {key : String} {a : α} {l : List (String × α)} (h : ∀ e ∈ l, e.1 < key) :
    putEntry key a l = l ++ [(key, a)] := by
  induction l with
  | nil => rfl
  | cons e rest ih =>
      obtain ⟨k, b⟩ := e
      obtain ⟨hk, hrest⟩ := List.forall_mem_cons.mp h
      have hne : key ≠ k := fun heq => String.lt_irrefl k (heq ▸ hk)
      have hlt : ¬ key < k := fun hlt => String.lt_irrefl key (String.lt_trans hlt hk)
      rw [putEntry, if_neg hlt, if_neg hne, ih hrest, List.cons_append]

theorem putAll_entries {m : KeyMap α} {pairs : List (String × α)}
    (h : (m.entries ++ pairs).Pairwise fun a b => a.1 < b.1) :
    (m.putAll pairs).entries = m.entries ++ pairs := by
  induction pairs generalizing m with
  | nil => exact (List.append_nil _).symm
  | cons e rest ih =>
      have hlast : (m.put e.1 e.2).entries = m.entries ++ [e] :=
        putEntry_last fun x hx =>
          (List.pairwise_append.mp h).2.2 x hx e List.mem_cons_self
      have hput : m.putAll (e :: rest) = (m.put e.1 e.2).putAll rest := rfl
      have happend : m.entries ++ e :: rest = (m.put e.1 e.2).entries ++ rest := by
        rw [hlast, List.append_assoc, List.singleton_append]
      rw [happend] at h ⊢
      rw [hput, ih h]

/-- Setting the entries of a map one after the other makes the map. -/
theorem ofList_entries (m : KeyMap α) : ofList m.entries = m :=
  ext_entries (putAll_entries (m := empty) m.ordered)

/-! ## Computed values -/

theorem lookup_mapEntries {ε : Type} {f : String → α → Except ε β} {l : List (String × α)}
    {r : List (String × β)} (h : mapEntries f l = .ok r) {key : String} {a : α}
    (ha : lookup key l = some a) : ∃ b, f key a = .ok b ∧ lookup key r = some b := by
  induction l generalizing r with
  | nil => cases ha
  | cons e rest ih =>
      obtain ⟨k, c⟩ := e
      unfold mapEntries at h
      split at h
      · cases h
      next w hw =>
        split at h
        · cases h
        next ws hws =>
          cases h
          rw [lookup_cons] at ha ⊢
          by_cases hk : k = key
          · subst hk
            rw [if_pos rfl] at ha ⊢
            cases ha
            exact ⟨w, hw, rfl⟩
          · rw [if_neg hk] at ha ⊢
            exact ih hws ha

/-- A map whose values were computed one by one holds what was computed for each key. -/
theorem get?_mapM {ε : Type} {f : String → α → Except ε β} {m : KeyMap α} {r : KeyMap β}
    (h : m.mapM f = .ok r) {key : String} {a : α} (ha : m.get? key = some a) :
    ∃ b, f key a = .ok b ∧ r.get? key = some b := by
  unfold mapM at h
  split at h
  · cases h
  next entries hentries =>
    cases h
    exact lookup_mapEntries hentries ha

/-- Values that are computed one by one fail at one of them. -/
theorem mapEntries_eq_error {ε : Type} {f : String → α → Except ε β} {l : List (String × α)} {x : ε}
    (h : mapEntries f l = .error x) : ∃ e ∈ l, f e.1 e.2 = .error x := by
  induction l with
  | nil => cases h
  | cons e rest ih =>
      obtain ⟨k, a⟩ := e
      unfold mapEntries at h
      split at h
      next hx =>
        cases h
        exact ⟨(k, a), List.mem_cons_self, hx⟩
      · split at h
        next hrest =>
          cases h
          obtain ⟨e, he, hx⟩ := ih hrest
          exact ⟨e, List.mem_cons_of_mem _ he, hx⟩
        · cases h

theorem mapM_eq_error {ε : Type} {f : String → α → Except ε β} {m : KeyMap α} {x : ε}
    (h : m.mapM f = .error x) : ∃ e ∈ m.entries, f e.1 e.2 = .error x := by
  unfold mapM at h
  split at h
  next hx =>
    cases h
    exact mapEntries_eq_error hx
  · cases h

/-- Each entry of a map whose values were computed one by one comes of an entry with its key. -/
theorem mem_mapM {ε : Type} {f : String → α → Except ε β} {m : KeyMap α} {r : KeyMap β}
    (h : m.mapM f = .ok r) {e : String × β} (he : e ∈ r.entries) :
    ∃ a, (e.1, a) ∈ m.entries ∧ f e.1 a = .ok e.2 := by
  unfold mapM at h
  split at h
  · cases h
  next hentries =>
    cases h
    exact mem_mapEntries hentries e he

/-- Values that are computed one by one are those of the entry list. -/
theorem map_entries_mapM {ε : Type} (f : String → α → Except ε β) (m : KeyMap α) :
    (m.mapM f).map entries = mapEntries f m.entries := by
  unfold mapM
  split
  next hx => exact hx.symm
  next hok => exact hok.symm

/-- Two maps are computed alike when their entry lists are. -/
theorem mapM_eq_mapM {γ : Type u} {ε : Type} {f : String → α → Except ε β}
    {g : String → γ → Except ε β} {m : KeyMap α} {m' : KeyMap γ}
    (h : mapEntries f m.entries = mapEntries g m'.entries) : m.mapM f = m'.mapM g := by
  rw [← map_entries_mapM, ← map_entries_mapM] at h
  cases hm : m.mapM f <;> cases hm' : m'.mapM g <;> rw [hm, hm'] at h
  · cases h
    rfl
  · cases h
  · cases h
  · exact congrArg Except.ok (ext_entries (Except.ok.inj h))

theorem mapEntries_congr {γ : Type u} {ε : Type} {f : String → α → Except ε β}
    {g : String → γ → Except ε β} {l : List (String × α)} {l' : List (String × γ)}
    (h : List.Forall₂ (fun e e' => e.1 = e'.1 ∧ f e.1 e.2 = g e'.1 e'.2) l l') :
    mapEntries f l = mapEntries g l' := by
  induction h with
  | nil => rfl
  | cons hentry _ ih =>
      obtain ⟨hkey, hvalue⟩ := hentry
      rw [mapEntries, mapEntries, hvalue, ih, hkey]

/-- Maps with the same keys are computed alike when each of their values is. -/
theorem mapM_congr {γ : Type u} {ε : Type} {f : String → α → Except ε β}
    {g : String → γ → Except ε β} {m : KeyMap α} {m' : KeyMap γ}
    (h : List.Forall₂ (fun e e' => e.1 = e'.1 ∧ f e.1 e.2 = g e'.1 e'.2) m.entries m'.entries) :
    m.mapM f = m'.mapM g :=
  mapM_eq_mapM (mapEntries_congr h)

/-- The values, smallest key first. -/
def vals (m : KeyMap α) : List α := m.entries.map (·.2)

theorem vals_map (f : α → β) (m : KeyMap α) : (m.map f).vals = m.vals.map f := by
  simp [vals, map]

theorem keys_map (f : α → β) (m : KeyMap α) : (m.map f).keys = m.keys := by
  simp [keys, map]

theorem get?_map (f : α → β) (m : KeyMap α) (key : String) :
    (m.map f).get? key = (m.get? key).map f := by
  simp [get?, map, List.find?_map, Function.comp_def]

end Conformance.KeyMap
