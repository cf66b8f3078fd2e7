import Conformance.Proofs.Text.Lowercase
import Conformance.Proofs.Text.Split
import Conformance.Schema.Routes
import Mathlib.Data.List.Forall2

/-!
# Which schema judges a response

Paths are compared as segments. What that comes to is said of the texts: without the slashes at their
ends (`Stripped`), a path comes of the template when each segment in braces is replaced by a text
(`Arises`). `accepts_cut_iff` says that the comparison finds exactly these paths. From it follows
which entries are for a response (`appliesTo_route_iff`), and the first of them judges it, whatever is
registered behind it (`check_earliest`).
-/

namespace Conformance

/-! ## Slashes at the ends -/

namespace PathSegment

/-- One text is what another one is without the slashes at its ends. -/
structure Stripped (whole core : List Char) : Prop where
  /-- Nothing but slashes stands around it. -/
  ends : ∃ m n, whole = List.replicate m '/' ++ core ++ List.replicate n '/'
  /-- It does not begin with a slash. -/
  first : core.head? ≠ some '/'
  /-- It does not end in a slash. -/
  last : core.getLast? ≠ some '/'

/-- The slashes in front of a text are dropped, and no more. -/
theorem eq_replicate_append_dropWhile (cs : List Char) :
    (∃ n, cs = List.replicate n '/' ++ cs.dropWhile (· == '/')) ∧
      (cs.dropWhile (· == '/')).head? ≠ some '/' := by
  induction cs with
  | nil => exact ⟨⟨0, rfl⟩, by simp⟩
  | cons c rest ih =>
      obtain ⟨⟨n, hn⟩, hhead⟩ := ih
      by_cases hc : c = '/'
      · subst hc
        rw [List.dropWhile_cons_of_pos (by rfl)]
        refine ⟨⟨n + 1, ?_⟩, hhead⟩
        rw [List.replicate_succ, List.cons_append, ← hn]
      · rw [List.dropWhile_cons_of_neg (by simpa using hc)]
        exact ⟨⟨0, rfl⟩, by simpa using hc⟩

theorem dropWhile_replicate_append (n : Nat) {cs : List Char} (h : cs.head? ≠ some '/') :
    (List.replicate n '/' ++ cs).dropWhile (· == '/') = cs := by
  rw [List.dropWhile_append_of_pos (by simp)]
  cases cs with
  | nil => rfl
  | cons c rest => exact List.dropWhile_cons_of_neg (by simpa using h)

theorem stripped_stripSlashes (whole : List Char) : Stripped whole (stripSlashes whole) := by
  obtain ⟨⟨m, hfront⟩, hhead⟩ := eq_replicate_append_dropWhile whole
  obtain ⟨⟨n, hback⟩, hlast⟩ :=
    eq_replicate_append_dropWhile (whole.dropWhile (· == '/')).reverse
  have hcore : whole.dropWhile (· == '/') = stripSlashes whole ++ List.replicate n '/' := by
    have hreverse := congrArg List.reverse hback
    rwa [List.reverse_reverse, List.reverse_append, List.reverse_replicate] at hreverse
  refine ⟨⟨m, n, ?_⟩, ?_, ?_⟩
  · rw [List.append_assoc, ← hcore]
    exact hfront
  · intro hslash
    apply hhead
    rw [hcore, List.head?_append, hslash]
    rfl
  · rw [stripSlashes, List.getLast?_reverse]
    exact hlast

/-- There is only one way to take the slashes off. -/
theorem Stripped.eq {whole core : List Char} (h : Stripped whole core) :
    core = stripSlashes whole := by
  obtain ⟨⟨m, n, rfl⟩, hfirst, hlast⟩ := h
  have hback : (core ++ List.replicate n '/').reverse.dropWhile (· == '/') = core.reverse := by
    rw [List.reverse_append, List.reverse_replicate]
    exact dropWhile_replicate_append n (by rwa [List.head?_reverse])
  cases core with
  | nil => simp [stripSlashes]
  | cons c rest =>
      have hfront : (List.replicate m '/' ++ (c :: rest ++ List.replicate n '/')).dropWhile
          (· == '/') = c :: rest ++ List.replicate n '/' :=
        dropWhile_replicate_append m hfirst
      rw [stripSlashes, List.append_assoc, hfront, hback, List.reverse_reverse]

/-! ## Templates -/

/-- A segment of a template in braces. -/
def IsParameter (segment : List Char) : Prop := ∃ name, segment = '{' :: (name ++ ['}'])

/-- What may stand in the place of a segment: for one in braces any text that is not empty and has no
slash, and for any other one itself. -/
def Fills (segment part : List Char) : Prop :=
  (IsParameter segment ∧ part ≠ [] ∧ '/' ∉ part) ∨ (¬ IsParameter segment ∧ part = segment)

/-- A path comes of a template by putting texts in the places of its segments. -/
def Arises (template path : List Char) : Prop :=
  ∃ segments parts, segments ≠ [] ∧ (∀ segment ∈ segments, '/' ∉ segment) ∧
    template = ['/'].intercalate segments ∧ List.Forall₂ Fills segments parts ∧
      path = ['/'].intercalate parts

/-- A path matches a template, the slashes at the ends of both aside. -/
def Matches (template path : String) : Prop :=
  ∃ t p, Stripped template.toList t ∧ Stripped path.toList p ∧ Arises t p

theorem ofChars_eq_parameter_iff {segment : List Char} :
    ofChars segment = .parameter ↔ IsParameter segment := by
  unfold ofChars
  constructor
  · intro h
    split at h
    next hends =>
      rw [Bool.and_eq_true, beq_iff_eq, beq_iff_eq] at hends
      obtain ⟨inner, rfl⟩ := List.getLast?_eq_some_iff.mp hends.2
      cases inner with
      | nil => exact absurd hends.1 (by decide)
      | cons c name =>
          obtain rfl : c = '{' := by simpa using hends.1
          exact ⟨name, rfl⟩
    next => cases h
  · rintro ⟨name, rfl⟩
    rw [if_pos]
    rw [List.head?_cons, ← List.cons_append, List.getLast?_concat]
    rfl

theorem ofChars_of_not_parameter {segment : List Char} (h : ¬ IsParameter segment) :
    ofChars segment = .literal segment := by
  rw [← ofChars_eq_parameter_iff] at h
  unfold ofChars at h ⊢
  split at h
  · exact absurd rfl h
  next hends => rw [if_neg hends]

theorem accepts_ofChars_iff {segment part : List Char} (h : '/' ∉ part) :
    (ofChars segment).accepts part = true ↔ Fills segment part := by
  by_cases hparameter : IsParameter segment
  · rw [ofChars_eq_parameter_iff.mpr hparameter]
    simp [accepts, Fills, hparameter, h]
  · rw [ofChars_of_not_parameter hparameter, accepts, beq_iff_eq, eq_comm]
    simp [Fills, hparameter]

theorem acceptsAll_map_iff {segments parts : List (List Char)} (h : ∀ part ∈ parts, '/' ∉ part) :
    acceptsAll (segments.map ofChars) parts = true ↔ List.Forall₂ Fills segments parts := by
  induction segments generalizing parts with
  | nil =>
      cases parts with
      | nil => exact iff_of_true rfl .nil
      | cons part rest => exact iff_of_false Bool.false_ne_true nofun
  | cons segment segments ih =>
      cases parts with
      | nil => exact iff_of_false Bool.false_ne_true nofun
      | cons part rest =>
          rw [List.forall_mem_cons] at h
          rw [List.map_cons, acceptsAll, Bool.and_eq_true, accepts_ofChars_iff h.1, ih h.2,
            List.forall₂_cons]

/-- What stands in the place of a segment without a slash has none. -/
theorem Fills.slash_not_mem {segment part : List Char} (h : Fills segment part)
    (hsegment : '/' ∉ segment) : '/' ∉ part := by
  rcases h with ⟨-, -, hpart⟩ | ⟨-, rfl⟩
  · exact hpart
  · exact hsegment

theorem slash_not_mem_of_fills {segments parts : List (List Char)}
    (h : List.Forall₂ Fills segments parts) (hsegments : ∀ segment ∈ segments, '/' ∉ segment) :
    ∀ part ∈ parts, '/' ∉ part := by
  induction h with
  | nil => nofun
  | cons hfills _ ih =>
      rw [List.forall_mem_cons] at hsegments ⊢
      exact ⟨hfills.slash_not_mem hsegments.1, ih hsegments.2⟩

/-- The comparison segment by segment is one of the texts. -/
theorem acceptsAll_splitOn_iff {template path : List Char} :
    acceptsAll ((Text.splitOn '/' template).map ofChars) (Text.splitOn '/' path) = true ↔
      Arises template path := by
  rw [acceptsAll_map_iff fun part => Text.not_mem_of_mem_splitOn]
  constructor
  · intro h
    refine ⟨_, _, Text.splitOn_ne_nil template, fun segment => Text.not_mem_of_mem_splitOn, ?_, h, ?_⟩
    · exact (Text.intercalate_splitOn template).symm
    · exact (Text.intercalate_splitOn path).symm
  · rintro ⟨segments, parts, hne, hsegments, rfl, hfills, rfl⟩
    have hparts : parts ≠ [] := by
      rintro rfl
      cases hfills
      exact hne rfl
    rwa [Text.splitOn_intercalate hsegments hne,
      Text.splitOn_intercalate (slash_not_mem_of_fills hfills hsegments) hparts]

theorem accepts_cut_iff {template path : String} :
    acceptsAll (ofTemplate template) (cut path.toList) = true ↔ Matches template path := by
  rw [ofTemplate, cut, cut, acceptsAll_splitOn_iff]
  constructor
  · intro h
    exact ⟨_, _, stripped_stripSlashes _, stripped_stripSlashes _, h⟩
  · rintro ⟨t, p, ht, hp, h⟩
    rwa [← ht.eq, ← hp.eq]

example : acceptsAll (ofTemplate "/accounts/{id}/") (cut "accounts/1".toList) = true ∧
    acceptsAll (ofTemplate "/accounts/{id}/") (cut "/accounts//".toList) = false := by
  decide

end PathSegment

/-! ## Entries -/

/-- An entry is for a response: it has its status, its method in whatever case, and a template that
its path matches. -/
structure SchemaEntry.IsFor (e : SchemaEntry) (response : Response) : Prop where
  /-- The status is the same. -/
  status : e.status = response.status
  /-- The method is the same, the case of ASCII letters aside. -/
  method : Text.asciiLowercase e.method = Text.asciiLowercase response.method
  /-- The path matches the template. -/
  path : PathSegment.Matches e.template response.path

/-- What an entry finds in a response: the failures of its body, or that the body is no JSON. -/
structure SchemaEntry.Finds (e : SchemaEntry) (response : Response) (found : List SchemaFailure) :
    Prop where
  /-- A body is judged by the schema. -/
  json : ∀ body, response.json? = some body → found = e.failures body
  /-- There is one failure if there is none to judge. -/
  notJson : response.json? = none → found = [⟨"", "response body is not JSON"⟩]

namespace SchemaRoutes

variable {response : Response}

theorem appliesTo_route_iff {e : SchemaEntry} :
    appliesTo response e.route = true ↔ e.IsFor response := by
  have hmethod : Text.equalIgnoringCase (Text.asciiUppercase e.method) response.method = true ↔
      Text.asciiLowercase e.method = Text.asciiLowercase response.method := by
    rw [Text.equalIgnoringCase, Text.asciiLowercase_asciiUppercase, beq_iff_eq]
  simp only [appliesTo, SchemaEntry.route, Bool.and_eq_true, beq_iff_eq, hmethod,
    PathSegment.accepts_cut_iff]
  constructor
  · rintro ⟨⟨hstatus, hmethod⟩, hpath⟩
    exact ⟨hstatus, hmethod, hpath⟩
  · intro h
    exact ⟨⟨h.status, h.method⟩, h.path⟩

theorem routes_ofEntries (entries : List SchemaEntry) :
    (ofEntries entries).routes = entries.map SchemaEntry.route := by
  have hfold : ∀ r : SchemaRoutes,
      (entries.foldl add r).routes = r.routes ++ entries.map SchemaEntry.route := by
    induction entries with
    | nil => simp
    | cons e rest ih =>
        intro r
        rw [List.foldl_cons, ih]
        simp [add]
  exact hfold empty

/-- The schema of a response is that of the first entry that is for it. -/
theorem find?_ofEntries {before after : List SchemaEntry} {e : SchemaEntry}
    (hbefore : ∀ other ∈ before, ¬ other.IsFor response) (h : e.IsFor response) :
    (ofEntries (before ++ e :: after)).find? response = some e.route := by
  have hnone : before.find? (appliesTo response ∘ SchemaEntry.route) = none := by
    rw [List.find?_eq_none]
    intro other hother happlies
    exact hbefore other hother (appliesTo_route_iff.mp happlies)
  have hfound : (e :: after).find? (appliesTo response ∘ SchemaEntry.route) = some e :=
    List.find?_cons_of_pos (appliesTo_route_iff.mpr h)
  rw [find?, routes_ofEntries, List.find?_map, List.find?_append, hnone, Option.none_or, hfound]
  rfl

theorem find?_ofEntries_eq_none {entries : List SchemaEntry}
    (h : ∀ e ∈ entries, ¬ e.IsFor response) : (ofEntries entries).find? response = none := by
  rw [find?, routes_ofEntries, List.find?_eq_none]
  intro route hroute happlies
  obtain ⟨e, he, rfl⟩ := List.mem_map.mp hroute
  exact h e he (appliesTo_route_iff.mp happlies)

theorem finds_check {r : SchemaRoutes} {e : SchemaEntry} (h : r.find? response = some e.route) :
    e.Finds response (r.check response) := by
  constructor
  · intro body hbody
    simp only [check, h, hbody]
    rfl
  · intro hnone
    simp only [check, h, hnone]

/-- There is a first entry for a response, or there is none. -/
theorem first_or_none (entries : List SchemaEntry) (response : Response) :
    (∃ before e after, entries = before ++ e :: after ∧
      (∀ other ∈ before, ¬ other.IsFor response) ∧ e.IsFor response) ∨
    ∀ e ∈ entries, ¬ e.IsFor response := by
  induction entries with
  | nil => exact .inr nofun
  | cons e rest ih =>
      by_cases he : e.IsFor response
      · exact .inl ⟨[], e, rest, rfl, nofun, he⟩
      · rcases ih with ⟨before, first, after, rfl, hbefore, hfirst⟩ | hnone
        · refine .inl ⟨e :: before, first, after, rfl, ?_, hfirst⟩
          exact List.forall_mem_cons.mpr ⟨he, hbefore⟩
        · exact .inr (List.forall_mem_cons.mpr ⟨he, hnone⟩)

/-- **The earliest schema judges.** The segments of a template accept those of a path exactly if the
path matches the template. Whatever has been registered, a response is judged by the first entry that
is for it, and then nothing that is registered later changes what is found; where there is no such
entry, nothing is found. -/
theorem check_earliest (entries : List SchemaEntry) (response : Response) :
    (∀ template path : String,
      PathSegment.acceptsAll (PathSegment.ofTemplate template) (PathSegment.cut path.toList) = true ↔
        PathSegment.Matches template path) ∧
    ((∃ before e after, entries = before ++ e :: after ∧
        (∀ other ∈ before, ¬ other.IsFor response) ∧ e.IsFor response ∧
        e.Finds response ((ofEntries entries).check response) ∧
        ∀ later, (ofEntries (entries ++ later)).check response = (ofEntries entries).check response) ∨
      (∀ e ∈ entries, ¬ e.IsFor response) ∧ (ofEntries entries).check response = []) := by
  refine ⟨fun template path => PathSegment.accepts_cut_iff, ?_⟩
  rcases first_or_none entries response with ⟨before, e, after, rfl, hbefore, he⟩ | hnone
  · have hfind : ∀ rest, (ofEntries (before ++ e :: rest)).find? response = some e.route :=
      fun rest => find?_ofEntries hbefore he
    refine .inl ⟨before, e, after, rfl, hbefore, he, finds_check (hfind after), fun later => ?_⟩
    rw [check, check, List.append_assoc, List.cons_append, hfind, hfind]
  · refine .inr ⟨hnone, ?_⟩
    rw [check, find?_ofEntries_eq_none hnone]

end SchemaRoutes

end Conformance
