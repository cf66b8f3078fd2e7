import Conformance.Proofs.Text.Split
import Conformance.Redaction
import Mathlib.Data.List.Forall2

/-!
# What a logged query shows

A query is cut at its ampersands, each pair is masked by itself, and the pairs are put together
again. `Shows` says what is logged of a pair: a pair without an equals sign and one whose name is
not hidden as they are, and of any other pair its name and a mask. `AlikePairs` says which pairs
cannot be told apart by it. `redactQuery_pairwise` carries both over to queries and URLs: nothing
is lost or moved by cutting and joining, and two queries are logged alike exactly if they differ in
no more than values of hidden names.
-/

namespace Conformance.Redaction

variable {fragments : List String}

/-- Whether the value of a parameter is masked. -/
def isHidden (fragments : List String) (key : List Char) : Bool :=
  isSensitive fragments (String.ofList key) || key == "request".toList

/-- The pairs of a query, empty ones included. -/
def pairs (query : String) : List (List Char) := Text.splitOn '&' query.toList

/-! ## Pairs -/

/-- What is logged of a pair. -/
inductive Shows (fragments : List String) : List Char → List Char → Prop
  /-- A pair without a value is a name alone. -/
  | bare {pair : List Char} : '=' ∉ pair → Shows fragments pair pair
  /-- A pair whose name is not hidden stays. -/
  | plain {key value : List Char} : '=' ∉ key → isHidden fragments key = false →
      Shows fragments (key ++ '=' :: value) (key ++ '=' :: value)
  /-- The value of a hidden name is masked. -/
  | masked {key value : List Char} : '=' ∉ key → isHidden fragments key = true →
      Shows fragments (key ++ '=' :: value) (key ++ '=' :: mask.toList)

/-- Two pairs that are the same, or differ in the value of a hidden name alone. -/
inductive AlikePairs (fragments : List String) : List Char → List Char → Prop
  | same (pair : List Char) : AlikePairs fragments pair pair
  | hidden {key : List Char} (value value' : List Char) : '=' ∉ key →
      isHidden fragments key = true → AlikePairs fragments (key ++ '=' :: value) (key ++ '=' :: value')

theorem redactPair_bare {pair : List Char} (h : '=' ∉ pair) : redactPair fragments pair = pair := by
  rw [redactPair, Text.splitOnce_eq_none h]

theorem redactPair_valued {key : List Char} (h : '=' ∉ key) (value : List Char) :
    redactPair fragments (key ++ '=' :: value) =
      if isHidden fragments key then key ++ '=' :: mask.toList else key ++ '=' :: value := by
  rw [redactPair, Text.splitOnce_append h]
  rfl

theorem shows_redactPair (pair : List Char) : Shows fragments pair (redactPair fragments pair) := by
  by_cases hbare : '=' ∈ pair
  · obtain ⟨key, value, rfl, hkey⟩ := List.eq_append_cons_of_mem hbare
    rw [redactPair_valued hkey]
    cases hhidden : isHidden fragments key with
    | false => exact .plain hkey hhidden
    | true => exact .masked hkey hhidden
  · rw [redactPair_bare hbare]
    exact .bare hbare

/-- A masked pair is masked to itself. -/
theorem Shows.redactPair_eq {pair shown : List Char} (h : Shows fragments pair shown) :
    redactPair fragments shown = shown := by
  cases h with
  | bare hbare => exact redactPair_bare hbare
  | plain hkey hhidden => simp [redactPair_valued hkey, hhidden]
  | masked hkey hhidden => simp [redactPair_valued hkey, hhidden]

/-- Masking a pair puts in no ampersand. -/
theorem Shows.amp_not_mem {pair shown : List Char} (h : Shows fragments pair shown)
    (hpair : '&' ∉ pair) : '&' ∉ shown := by
  cases h with
  | bare => exact hpair
  | plain => exact hpair
  | @masked key value hkey hhidden =>
      have hmask : '&' ∉ '=' :: mask.toList := by decide
      intro hmem
      rcases List.mem_append.mp hmem with h | h
      · exact hpair (List.mem_append_left _ h)
      · exact hmask h

theorem AlikePairs.symm {p q : List Char} (h : AlikePairs fragments p q) :
    AlikePairs fragments q p := by
  cases h with
  | same => exact .same _
  | hidden value value' hkey hhidden => exact .hidden value' value hkey hhidden

theorem AlikePairs.trans {p q r : List Char} (h : AlikePairs fragments p q)
    (h' : AlikePairs fragments q r) : AlikePairs fragments p r := by
  cases h with
  | same => exact h'
  | @hidden key value value' hkey hhidden =>
      -- Both ways the pair in the middle is cut at its first equals sign, so the names agree.
      generalize hq : key ++ '=' :: value' = q at h'
      cases h' with
      | same =>
          subst hq
          exact .hidden value value' hkey hhidden
      | hidden other other' hkey' hhidden' =>
          have hcut := Text.splitOnce_append hkey value'
          rw [hq, Text.splitOnce_append hkey'] at hcut
          cases hcut
          exact .hidden value other' hkey hhidden

theorem Shows.alike {pair shown : List Char} (h : Shows fragments pair shown) :
    AlikePairs fragments pair shown := by
  cases h with
  | bare => exact .same _
  | plain => exact .same _
  | masked hkey hhidden => exact .hidden _ _ hkey hhidden

theorem AlikePairs.redactPair_eq {p q : List Char} (h : AlikePairs fragments p q) :
    redactPair fragments p = redactPair fragments q := by
  cases h with
  | same => rfl
  | hidden value value' hkey hhidden => simp [redactPair_valued hkey, hhidden]

/-- What is logged of a pair tells all of it but the value of a hidden name. -/
theorem redactPair_eq_iff {p q : List Char} :
    redactPair fragments p = redactPair fragments q ↔ AlikePairs fragments p q := by
  constructor
  · intro heq
    have hp : AlikePairs fragments p (redactPair fragments p) := (shows_redactPair p).alike
    have hq : AlikePairs fragments q (redactPair fragments q) := (shows_redactPair q).alike
    rw [← heq] at hq
    exact hp.trans hq.symm
  · exact AlikePairs.redactPair_eq

/-! ## Queries -/

theorem pairs_ne_nil (query : String) : pairs query ≠ [] := Text.splitOn_ne_nil query.toList

/-- The pairs of a logged query are the pairs of the query, masked one by one. -/
theorem pairs_redactQuery (query : String) :
    pairs (redactQuery fragments query) = (pairs query).map (redactPair fragments) := by
  rw [redactQuery, pairs, String.toList_ofList]
  refine Text.splitOn_intercalate ?_ (mt List.map_eq_nil_iff.mp (pairs_ne_nil query))
  intro shown hshown
  obtain ⟨pair, hpair, rfl⟩ := List.mem_map.mp hshown
  exact (shows_redactPair pair).amp_not_mem (Text.not_mem_of_mem_splitOn hpair)

/-- A query is its pairs. -/
theorem pairs_inj {query query' : String} (h : pairs query = pairs query') : query = query' := by
  have hjoined : ∀ q, ['&'].intercalate (pairs q) = q.toList := fun q =>
    Text.intercalate_splitOn q.toList
  rw [← String.toList_inj, ← hjoined, ← hjoined, h]

theorem redactQuery_again (query : String) :
    redactQuery fragments (redactQuery fragments query) = redactQuery fragments query := by
  apply pairs_inj
  rw [pairs_redactQuery, pairs_redactQuery, List.map_map]
  apply List.map_congr_left
  intro pair _
  exact (shows_redactPair pair).redactPair_eq

theorem redactQuery_eq_iff {query query' : String} :
    redactQuery fragments query = redactQuery fragments query' ↔
      List.Forall₂ (AlikePairs fragments) (pairs query) (pairs query') := by
  have hpairs : redactQuery fragments query = redactQuery fragments query' ↔
      (pairs query).map (redactPair fragments) = (pairs query').map (redactPair fragments) := by
    rw [← pairs_redactQuery, ← pairs_redactQuery]
    exact ⟨fun h => by rw [h], pairs_inj⟩
  rw [hpairs, ← List.forall₂_eq_eq_eq, List.forall₂_map_left_iff, List.forall₂_map_right_iff]
  simp only [redactPair_eq_iff]

/-! ## URLs -/

theorem loggableUrl_without_query {url : String} (h : '?' ∉ url.toList) :
    loggableUrl fragments url = url := by
  rw [loggableUrl, Text.splitOnce_eq_none h]

theorem loggableUrl_with_query {base : String} (h : '?' ∉ base.toList) (query : String) :
    loggableUrl fragments (base ++ "?" ++ query) =
      base ++ "?" ++ redactQuery fragments query := by
  have hchars : (base ++ "?" ++ query).toList = base.toList ++ '?' :: query.toList := by simp
  rw [loggableUrl, hchars, Text.splitOnce_append h]
  simp only [String.ofList_toList]

/-- **Logged queries.** The pairs of a logged query are those of the query in their order, each shown
with its name: a pair without a value, or whose name is neither sensitive nor `request`, as it is,
and the value of any other pair as a mask. Two queries are logged alike exactly if they differ in
nothing but such values, and a logged query is logged as it is. A URL is logged with all that stands
up to its first question mark, and what stands behind it is logged as a query. -/
theorem redactQuery_pairwise (fragments : List String) :
    (∀ query, List.Forall₂ (Shows fragments) (pairs query) (pairs (redactQuery fragments query))) ∧
      (∀ query query', redactQuery fragments query = redactQuery fragments query' ↔
        List.Forall₂ (AlikePairs fragments) (pairs query) (pairs query')) ∧
      (∀ query, redactQuery fragments (redactQuery fragments query) = redactQuery fragments query) ∧
      (∀ url : String, '?' ∉ url.toList → loggableUrl fragments url = url) ∧
      ∀ base : String, '?' ∉ base.toList →
        (∀ query, loggableUrl fragments (base ++ "?" ++ query) =
          base ++ "?" ++ redactQuery fragments query) ∧
        ∀ query query', loggableUrl fragments (base ++ "?" ++ query) =
            loggableUrl fragments (base ++ "?" ++ query') ↔
          List.Forall₂ (AlikePairs fragments) (pairs query) (pairs query') := by
  refine ⟨fun query => ?_, fun _ _ => redactQuery_eq_iff, redactQuery_again,
    fun _ => loggableUrl_without_query, fun base hbase => ⟨loggableUrl_with_query hbase, ?_⟩⟩
  · rw [pairs_redactQuery, List.forall₂_map_right_iff, List.forall₂_same]
    exact fun pair _ => shows_redactPair pair
  · intro query query'
    rw [loggableUrl_with_query hbase, loggableUrl_with_query hbase, String.append_right_inj,
      redactQuery_eq_iff]

end Conformance.Redaction
