import Conformance.Proofs.Url.Front

/-!
# Reading back URLs

A URL that was read and has a query is read back from its text (`parse_render`), with the same
scheme, authority, query and fragment: of the characters that the text is cut at, none stands in the
part before it, and those of each part stand for themselves. Without a query the ends of the text
could be blanks of a path, and be dropped.
-/

namespace Conformance.Url

open Text

/-! ## Schemes -/

/-- Whether `c` may stand in a scheme. -/
def isSchemeChar (c : Char) : Bool := c.isAlphanum || c == '+' || c == '-' || c == '.'

/-- What is true of every scheme that was read. -/
structure IsScheme (scheme : String) : Prop where
  first : ∃ c name, scheme.toList = c :: name ∧ c.isAlpha = true
  chars : ∀ c ∈ scheme.toList, isSchemeChar c = true
  lower : ∀ c ∈ scheme.toList, asciiLower c = c

theorem scheme_facts {c : Char} (h : c.toNat < 0x80) : isSchemeChar c = true →
    0x20 < c.toNat ∧ isSchemeChar (asciiLower c) = true ∧
      asciiLower (asciiLower c) = asciiLower c ∧
        (c.isAlpha = true → (asciiLower c).isAlpha = true) := by
  apply forall_ascii h
  decide

theorem toNat_of_isSchemeChar {c : Char} (h : isSchemeChar c = true) : c.toNat < 0x80 := by
  simp only [isSchemeChar, Bool.or_eq_true, beq_iff_eq] at h
  rcases h with ((halphanum | rfl) | rfl) | rfl
  · exact Form.toNat_of_isAlphanum halphanum
  all_goals decide

theorem isSchemeChar_facts {c : Char} (h : isSchemeChar c = true) :
    0x20 < c.toNat ∧ isSchemeChar (asciiLower c) = true ∧
      asciiLower (asciiLower c) = asciiLower c ∧
        (c.isAlpha = true → (asciiLower c).isAlpha = true) :=
  scheme_facts (toNat_of_isSchemeChar h) h

theorem isScheme_of_scheme? {cs rest : List Char} {scheme : String}
    (h : scheme? cs = some (scheme, rest)) : IsScheme scheme := by
  unfold scheme? at h
  split at h
  next c name rest' _ =>
    split at h
    next hchars =>
      obtain ⟨rfl, rfl⟩ := Prod.mk.inj (Option.some.inj h)
      rw [Bool.and_eq_true, List.all_eq_true] at hchars
      have hall : ∀ d ∈ c :: name, isSchemeChar d = true := by
        refine List.forall_mem_cons.mpr ⟨?_, hchars.2⟩
        simp [isSchemeChar, Char.isAlphanum, hchars.1]
      refine ⟨?_, ?_, ?_⟩
      · rw [String.toList_ofList]
        exact ⟨_, _, rfl, (isSchemeChar_facts (hall c List.mem_cons_self)).2.2.2 hchars.1⟩
      · rw [String.toList_ofList]
        exact List.forall_mem_map.mpr fun d hd => (isSchemeChar_facts (hall d hd)).2.1
      · rw [String.toList_ofList]
        exact List.forall_mem_map.mpr fun d hd => (isSchemeChar_facts (hall d hd)).2.2.1
    next => cases h
  next => cases h

/-- A scheme is read as what it is. -/
theorem scheme?_scheme {scheme : String} (h : IsScheme scheme) (rest : List Char) :
    scheme? (scheme.toList ++ ':' :: rest) = some (scheme, rest) := by
  have hcolon : ':' ∉ scheme.toList := fun hmem => absurd (h.chars _ hmem) (by decide)
  have hcut := cutAt_marked hcolon (some rest)
  have hlower : scheme.toList.map asciiLower = scheme.toList :=
    (List.map_congr_left h.lower).trans (List.map_id' _)
  obtain ⟨c, name, hname, halpha⟩ := h.first
  have hchars : name.all isSchemeChar = true :=
    List.all_eq_true.mpr fun d hd => h.chars d (hname ▸ List.mem_cons_of_mem _ hd)
  rw [marked] at hcut
  unfold scheme?
  rw [hcut, hname]
  show (if (_ && List.all name isSchemeChar) = true then _ else _) = _
  rw [halpha, hchars, Bool.and_true, if_pos rfl, ← hname, hlower, String.ofList_toList]

/-! ## Tails -/

theorem cutTail_marked {front : List Char} {query : Option (List Char)} (hhash : '#' ∉ front)
    (hmark : '?' ∉ front) (hquery : ∀ q ∈ query, '#' ∉ q) (fragment : Option (List Char)) :
    cutTail (front ++ (marked '?' query ++ marked '#' fragment)) = (front, query, fragment) := by
  have hfront : '#' ∉ front ++ marked '?' query := by
    rw [List.mem_append]
    rintro (h | h)
    · exact hhash h
    · cases query with
      | none => cases h
      | some q =>
          rcases List.mem_cons.mp h with h | h
          · exact absurd h (by decide)
          · exact hquery q rfl h
  rw [← List.append_assoc, cutTail, cutAt_marked hfront]
  dsimp only
  rw [cutAt_marked hmark]

theorem not_mem_cutTail (cs : List Char) : '#' ∉ (cutTail cs).1 ∧ '?' ∉ (cutTail cs).1 := by
  obtain ⟨front, fragment, hhash, -, hcut⟩ := cutAt_spec '#' cs
  obtain ⟨front', query, hmark, hfront, hcut'⟩ := cutAt_spec '?' front
  rw [cutTail, hcut]
  dsimp only
  rw [hcut']
  refine ⟨fun h => hhash ?_, hmark⟩
  rw [hfront]
  exact List.mem_append_left _ h

/-! ## URLs -/

/-- What is true of every URL that was read. -/
structure Proper [Idna] (u : Url) : Prop where
  scheme : IsScheme u.scheme
  front : ProperFront u.scheme u.authority u.path
  query : ∀ q ∈ u.query, ∀ c ∈ q.toList, plainInQuery (isSpecial u.scheme) c = true
  fragment : ∀ f ∈ u.fragment, ∀ c ∈ f.toList, plainInFragment c = true

theorem plainInQuery_facts : ∀ special : Bool, plainInQuery special '%' = true ∧
    ∀ n < 16, plainInQuery special (Percent.hexDigit n) = true := by
  decide

theorem proper_withTail [Idna] {scheme : String} {a : Option Authority} {path : UrlPath}
    (hscheme : IsScheme scheme) (h : ProperFront scheme a path)
    (query fragment : Option (List Char)) : (withTail scheme a path query fragment).Proper := by
  refine ⟨hscheme, h, ?_, ?_⟩
  · intro q hq
    obtain ⟨cs, -, rfl⟩ := Option.mem_map.mp hq
    rw [String.toList_ofList]
    obtain ⟨hpercent, hdigit⟩ := plainInQuery_facts (isSpecial scheme)
    exact Percent.forall_mem_encode hpercent hdigit fun _ _ h => h
  · intro f hf
    obtain ⟨cs, -, rfl⟩ := Option.mem_map.mp hf
    rw [String.toList_ofList]
    exact Percent.forall_mem_encode (by decide) (by decide) fun _ _ h => h

/-- Every URL that was read is proper. -/
theorem proper_of_parse [Idna] [LawfulIdna] {s : String} {u : Url} (h : parse s = .ok u) :
    u.Proper := by
  unfold parse at h
  split at h
  next => cases h
  next scheme rest hscheme =>
    rw [afterScheme_eq, Except.map_eq_ok_iff] at h
    obtain ⟨⟨a, path⟩, hfront, rfl⟩ := h
    obtain ⟨hhash, hmark⟩ := not_mem_cutTail rest
    exact proper_withTail (isScheme_of_scheme? hscheme)
      (properFront_of_frontOf hhash hmark hfront) _ _

/-- The text of what follows the path. -/
def tailText (u : Url) : List Char :=
  marked '?' (u.query.map String.toList) ++ marked '#' (u.fragment.map String.toList)

theorem toList_pathText (u : Url) : (pathText u).toList = pathChars u.path := by
  unfold pathText pathChars
  cases u.path with
  | plain text => rfl
  | segments parts =>
      show (String.join _).toList = _
      rw [String.toList_join, List.flatMap_map]
      exact List.flatMap_congr fun part _ => by simp

theorem toList_render (u : Url) : u.render.toList =
    u.scheme.toList ++ ':' :: (frontText u.authority u.path ++ tailText u) := by
  have hstarts : (pathText u).startsWith "//" = true ↔ ['/', '/'] <+: pathChars u.path := by
    rw [String.startsWith_string_iff, toList_pathText]
    rfl
  rcases u with ⟨scheme, authority, path, query, fragment⟩
  unfold render frontText tailText
  dsimp only at *
  cases authority with
  | some a => cases query <;> cases fragment <;> simp [marked, toList_pathText]
  | none =>
      by_cases hprefix : ['/', '/'] <+: pathChars path
      · cases query <;> cases fragment <;> simp [marked, toList_pathText, hstarts, hprefix]
      · cases query <;> cases fragment <;> simp [marked, toList_pathText, hstarts, hprefix]

/-- A text without controls whose ends are visible is read as it is. -/
theorem clean_eq {s : String} (hchars : ∀ c ∈ s.toList, 0x20 ≤ c.toNat)
    (hfirst : ∀ c ∈ s.toList.head?, 0x20 < c.toNat)
    (hlast : ∀ c ∈ s.toList.getLast?, 0x20 < c.toNat) : clean s = s.toList := by
  have hdrop : ∀ {cs : List Char}, (∀ c ∈ cs.head?, 0x20 < c.toNat) →
      cs.dropWhile (fun c => decide (c.toNat ≤ 0x20)) = cs := by
    intro cs hcs
    cases cs with
    | nil => rfl
    | cons c cs => exact List.dropWhile_cons_of_neg (by simpa using hcs c rfl)
  unfold clean
  dsimp only
  rw [hdrop hfirst, hdrop (by simpa using hlast), List.reverse_reverse, List.filter_eq_self]
  intro c hc
  have hc := hchars c hc
  have hne : c ≠ '\t' ∧ c ≠ '\n' ∧ c ≠ '\r' := by
    refine ⟨?_, ?_, ?_⟩ <;> rintro rfl <;> exact absurd hc (by decide)
  simp [hne]

theorem visible {c : Char} (hcontrol : Host.isControl c = false) (hspace : c ≠ ' ') :
    0x20 < c.toNat := by
  have hne : c.toNat ≠ 0x20 := fun heq => hspace (by rw [← Char.ofNat_toNat c, heq])
  simp only [Host.isControl, Bool.or_eq_false_iff, decide_eq_false_iff_not] at hcontrol
  omega

theorem visible_of_plainInQuery {special : Bool} {c : Char} (h : plainInQuery special c = true) :
    0x20 < c.toNat ∧ c ≠ '#' := by
  simp only [plainInQuery, Bool.not_eq_true', Bool.or_eq_false_iff] at h
  exact ⟨visible h.1.1 (by rintro rfl; simp at h), by rintro rfl; simp at h⟩

theorem visible_of_plainInFragment {c : Char} (h : plainInFragment c = true) : 0x20 < c.toNat := by
  simp only [plainInFragment, Bool.not_eq_true', Bool.or_eq_false_iff] at h
  exact visible h.1 (by rintro rfl; simp at h)

theorem visible_of_mem_tailText [Idna] {u : Url} (h : u.Proper) :
    ∀ c ∈ tailText u, 0x20 < c.toNat := by
  intro c hc
  rcases List.mem_append.mp hc with hc | hc
  · cases hquery : u.query with
    | none => simp [hquery, marked] at hc
    | some q =>
        rw [hquery] at hc
        rcases List.mem_cons.mp hc with rfl | hc
        · decide
        · exact (visible_of_plainInQuery (h.query q hquery c hc)).1
  · cases hfragment : u.fragment with
    | none => simp [hfragment, marked] at hc
    | some f =>
        rw [hfragment] at hc
        rcases List.mem_cons.mp hc with rfl | hc
        · decide
        · exact visible_of_plainInFragment (h.fragment f hfragment c hc)

theorem clean_render [Idna] {u : Url} (h : u.Proper) (hquery : u.query.isSome = true) :
    clean u.render = u.render.toList := by
  have hscheme : ∀ c ∈ u.scheme.toList, 0x20 < c.toNat :=
    fun c hc => (isSchemeChar_facts (h.scheme.chars c hc)).1
  have hfront : ∀ c ∈ frontText u.authority u.path, 0x20 ≤ c.toNat := by
    intro c hc
    have hc := isFrontChar_of_mem_frontText h.front c hc
    simp only [isFrontChar, Host.isControl, Bool.and_eq_true, Bool.not_eq_true',
      Bool.or_eq_false_iff, decide_eq_false_iff_not] at hc
    omega
  -- The path may end in a blank, so it is the query that keeps the end of the text.
  have htail : tailText u ≠ [] := by
    obtain ⟨q, hq⟩ := Option.isSome_iff_exists.mp hquery
    simp [tailText, hq, marked]
  refine clean_eq ?_ ?_ ?_
  · rw [toList_render]
    intro c hc
    rw [List.mem_append, List.mem_cons, List.mem_append] at hc
    rcases hc with hc | rfl | hc | hc
    · exact Nat.le_of_lt (hscheme c hc)
    · decide
    · exact hfront c hc
    · exact Nat.le_of_lt (visible_of_mem_tailText h c hc)
  · obtain ⟨c, name, hname, -⟩ := h.scheme.first
    rw [toList_render, hname]
    rintro d ⟨⟩
    exact hscheme c (hname ▸ List.mem_cons_self)
  · rw [toList_render, ← List.cons_append, ← List.append_assoc,
      List.getLast?_append_of_ne_nil _ htail]
    exact fun c hc => visible_of_mem_tailText h c (List.mem_of_mem_getLast? hc)

theorem withTail_text [Idna] {u : Url} (h : u.Proper) (path : UrlPath) :
    withTail u.scheme u.authority path (u.query.map String.toList) (u.fragment.map String.toList) =
      { u with path := path } := by
  have hquery : (u.query.map String.toList).map (fun q =>
      String.ofList (Percent.encode (plainInQuery (isSpecial u.scheme)) q)) = u.query := by
    cases hq : u.query with
    | none => rfl
    | some q => simp [Percent.encode_of_plain (h.query q hq)]
  have hfragment : (u.fragment.map String.toList).map (fun f =>
      String.ofList (Percent.encode plainInFragment f)) = u.fragment := by
    cases hf : u.fragment with
    | none => rfl
    | some f => simp [Percent.encode_of_plain (h.fragment f hf)]
  rw [withTail, hquery, hfragment]

/-- A URL with a query is read as what it was, but for its path: a segment may name a drive that did
not name one in its place before. -/
theorem parse_render [Idna] [LawfulIdna] {u : Url} (h : u.Proper) (hquery : u.query.isSome = true) :
    ∃ path, parse u.render = .ok { u with path := path } := by
  have hfront := isFrontChar_of_mem_frontText h.front
  have hhash : '#' ∉ frontText u.authority u.path :=
    fun hmem => absurd (hfront _ hmem) (by decide)
  have hmark : '?' ∉ frontText u.authority u.path :=
    fun hmem => absurd (hfront _ hmem) (by decide)
  have hq : ∀ q ∈ u.query.map String.toList, '#' ∉ q := by
    intro cs hcs hmem
    obtain ⟨q, hquery, rfl⟩ := Option.mem_map.mp hcs
    exact (visible_of_plainInQuery (h.query q hquery _ hmem)).2 rfl
  have hcut := cutTail_marked hhash hmark hq (u.fragment.map String.toList)
  obtain ⟨path, hpath⟩ := frontOf_frontText h.front
    ((u.query.map String.toList).isSome || (u.fragment.map String.toList).isSome)
  refine ⟨path, ?_⟩
  rw [parse, clean_render h hquery, toList_render, scheme?_scheme h.scheme]
  dsimp only
  rw [afterScheme_eq, tailText, hcut, hpath]
  exact congrArg Except.ok (withTail_text h path)

end Conformance.Url
