import Conformance.Proofs.Except
import Conformance.Proofs.Url.Authority

/-!
# What stands in front of a query

Between the scheme of a URL and its query stand an authority and a path, in one of five shapes
(`ProperFront`). What is read has one of them (`properFront_of_frontOf`), and each of them is read
back from its text with the same authority (`frontOf_frontText`). The path may be another one: a
segment that is left when empty ones are dropped may name a drive.
-/

namespace Conformance.Url

open Text

/-! ## Paths -/

/-- Segments of which every character may stand for itself. -/
def ProperParts (parts : List String) : Prop :=
  ∀ part ∈ parts, ∀ c ∈ part.toList, plainInPath c = true

theorem plainInPath_of_isAlpha {c : Char} (h : c.isAlpha = true) : plainInPath c = true := by
  have hascii : c.toNat < 0x80 :=
    Form.toNat_of_isAlphanum (by rw [Char.isAlphanum, h, Bool.true_or])
  revert h
  apply forall_ascii hascii
  decide

theorem plain_drive {segment : List Char} (h : isDrive segment = true) :
    ∀ c ∈ (String.ofList (segment.take 1 ++ [':'])).toList, plainInPath c = true := by
  unfold isDrive at h
  split at h
  next a b =>
    simp only [Bool.and_eq_true] at h
    intro c hc
    rw [String.toList_ofList] at hc
    simp at hc
    rcases hc with rfl | rfl
    · exact plainInPath_of_isAlpha h.1
    · decide
  next => cases h

theorem plain_encode (segment : List Char) :
    ∀ c ∈ (String.ofList (Percent.encode plainInPath segment)).toList, plainInPath c = true := by
  rw [String.toList_ofList]
  exact Percent.forall_mem_encode (by decide) (by decide) fun _ _ h => h

theorem ProperParts.cons {part : String} {parts : List String}
    (hpart : ∀ c ∈ part.toList, plainInPath c = true) (h : ProperParts parts) :
    ProperParts (part :: parts) := List.forall_mem_cons.mpr ⟨hpart, h⟩

theorem ProperParts.parent {parts : List String} (h : ProperParts parts) (isFile : Bool) :
    ProperParts (parent isFile parts) := by
  intro part hpart
  unfold Url.parent at hpart
  split at hpart
  next => cases hpart
  next =>
    split at hpart
    next => exact h part hpart
    next => cases hpart
  next => exact h part (List.mem_cons_of_mem _ hpart)

theorem ProperParts.reverse {parts : List String} (h : ProperParts parts) :
    ProperParts parts.reverse := fun part hpart => h part (List.mem_reverse.mp hpart)

theorem resolveSegments_proper {isFile : Bool} {segments : List (List Char)} {done : List String}
    (h : ProperParts done) : ProperParts (resolveSegments isFile done segments) := by
  have hempty : ∀ c ∈ ("" : String).toList, plainInPath c = true := by simp
  fun_induction resolveSegments isFile done segments with
  | case1 done => exact h.reverse
  | case2 done last hup => exact ((h.parent _).cons hempty).reverse
  | case3 done last hup hdot => exact (h.cons hempty).reverse
  | case4 done last hup hdot hdrive =>
      simp only [Bool.and_eq_true] at hdrive
      exact ProperParts.cons (plain_drive hdrive.2) (List.forall_mem_nil _)
  | case5 done last => exact (h.cons (plain_encode last)).reverse
  | case6 done segment rest hrest hup ih => exact ih (h.parent _)
  | case7 done segment rest hrest hup hdot ih => exact ih h
  | case8 done segment rest hrest hup hdot hdrive ih =>
      simp only [Bool.and_eq_true] at hdrive
      exact ih (ProperParts.cons (plain_drive hdrive.2) (List.forall_mem_nil _))
  | case9 done segment rest hrest hup hdot hdrive ih => exact ih (h.cons (plain_encode segment))

theorem resolveSegments_ne_nil {isFile : Bool} {segments : List (List Char)} {done : List String}
    (h : segments ≠ []) : resolveSegments isFile done segments ≠ [] := by
  fun_induction resolveSegments isFile done segments <;> simp_all

theorem cutSegments_ne_nil (special : Bool) (cs : List Char) : cutSegments special cs ≠ [] := by
  fun_induction cutSegments special cs <;> simp

theorem dropEmpty_spec {parts : List String} (h : parts ≠ []) :
    dropEmpty parts ≠ [] ∧ ∀ part ∈ dropEmpty parts, part ∈ parts := by
  fun_induction dropEmpty parts with
  | case1 s rest ih =>
      obtain ⟨hne, hmem⟩ := ih (List.cons_ne_nil s rest)
      exact ⟨hne, fun part hpart => List.mem_cons_of_mem _ (hmem part hpart)⟩
  | case2 parts => exact ⟨h, fun part hpart => hpart⟩

/-- The segments of a path: there is at least one, and every character may stand for itself. -/
theorem segmentsOf_proper (scheme : String) (cs : List Char) :
    segmentsOf scheme [] cs ≠ [] ∧ ProperParts (segmentsOf scheme [] cs) := by
  have hne := @resolveSegments_ne_nil (scheme == "file") _ []
    (cutSegments_ne_nil (isSpecial scheme) cs)
  have hproper := @resolveSegments_proper (scheme == "file") (cutSegments (isSpecial scheme) cs) []
    (List.forall_mem_nil _)
  unfold segmentsOf
  rw [List.reverse_nil]
  dsimp only
  split
  next =>
    obtain ⟨hne', hmem⟩ := dropEmpty_spec hne
    exact ⟨hne', fun part hpart => hproper part (hmem part hpart)⟩
  next => exact ⟨hne, hproper⟩

theorem pathAfterAuthority_proper (scheme : String) (cs : List Char) :
    ∃ parts, pathAfterAuthority scheme cs = .segments parts ∧ ProperParts parts := by
  unfold pathAfterAuthority
  split
  next =>
    refine ⟨_, rfl, ?_⟩
    split <;> simp [ProperParts]
  next c rest =>
    exact ⟨_, rfl, (segmentsOf_proper scheme _).2⟩

/-! ## Fronts -/

/-- Whether `c` may stand between the scheme of a URL and its query. -/
def isFrontChar (c : Char) : Bool := !Host.isControl c && !(['?', '#'].contains c)

/-- What is true of the authority of every file that was read. -/
structure ProperFileHost [Idna] (a : Authority) : Prop where
  read : fileHost (Authority.render a).toList = .ok a
  chars : ∀ c ∈ (Authority.render a).toList, isAuthorityChar c = true
  notDrive : isDrive (Authority.render a).toList = false

/-- What is true of the authority and path of every URL that was read: the five shapes that there
are. -/
inductive ProperFront [Idna] : String → Option Authority → UrlPath → Prop where
  | file {a : Authority} {parts : List String} (ha : ProperFileHost a)
      (hparts : ProperParts parts) : ProperFront "file" (some a) (.segments parts)
  | web {scheme : String} {a : Authority} {parts : List String} (hspecial : isSpecial scheme = true)
      (hfile : scheme ≠ "file") (ha : ProperAuthority scheme a) (hparts : ProperParts parts) :
      ProperFront scheme (some a) (.segments parts)
  | other {scheme : String} {a : Authority} {parts : List String}
      (hspecial : isSpecial scheme = false) (ha : ProperAuthority scheme a)
      (hparts : ProperParts parts) : ProperFront scheme (some a) (.segments parts)
  | rooted {scheme : String} {parts : List String} (hspecial : isSpecial scheme = false)
      (hne : parts ≠ []) (hparts : ProperParts parts) : ProperFront scheme none (.segments parts)
  | plain {scheme : String} {text : String} (hspecial : isSpecial scheme = false)
      (hslash : text.toList.head? ≠ some '/') (htext : ∀ c ∈ text.toList, isFrontChar c = true) :
      ProperFront scheme none (.plain text)

/-- The authority and path of what stands between a scheme that is none of the web and the query. -/
def otherFrontOf [Idna] (scheme : String) (followed : Bool) :
    List Char → Except UrlError (Option Authority × UrlPath)
  | '/' :: '/' :: cs =>
      if cs == ['@'] && followed then .error .emptyHost
      else (afterSlashes scheme cs).map fun (a, p) => (some a, p)
  | '/' :: cs => .ok (none, .segments (segmentsOf scheme [] cs))
  | cs => .ok (none, .plain (String.ofList (Percent.encode (fun c => !Host.isControl c) cs)))

theorem otherFrontOf_rooted [Idna] {scheme : String} {followed : Bool} {cs : List Char}
    (h : ∀ rest, cs = '/' :: rest → False) : otherFrontOf scheme followed ('/' :: cs) =
      .ok (none, .segments (segmentsOf scheme [] cs)) :=
  otherFrontOf.eq_2 scheme followed cs h

theorem otherFrontOf_plain [Idna] {scheme : String} {followed : Bool} {cs : List Char}
    (h : ∀ rest, cs = '/' :: rest → False) : otherFrontOf scheme followed cs =
      .ok (none, .plain (String.ofList (Percent.encode (fun c => !Host.isControl c) cs))) :=
  otherFrontOf.eq_3 scheme followed cs (fun _ hcs => h _ hcs) h

/-- The authority and path of what stands between scheme and query. -/
def frontOf [Idna] (scheme : String) (followed : Bool) (front : List Char) :
    Except UrlError (Option Authority × UrlPath) :=
  if scheme == "file" then (fileParts front).map fun (a, p) => (some a, p)
  else if isSpecial scheme then
    if (front.dropWhile (isSlash true)).isEmpty then .error .emptyHost
    else (afterSlashes scheme (front.dropWhile (isSlash true))).map fun (a, p) => (some a, p)
  else otherFrontOf scheme followed front

theorem afterScheme_eq [Idna] (scheme : String) (rest : List Char) : afterScheme scheme rest =
    (frontOf scheme ((cutTail rest).2.1.isSome || (cutTail rest).2.2.isSome) (cutTail rest).1).map
      fun (a, p) => withTail scheme a p (cutTail rest).2.1 (cutTail rest).2.2 := by
  unfold afterScheme frontOf
  rcases cutTail rest with ⟨front, query, fragment⟩
  dsimp only
  split
  next => cases fileParts front <;> rfl
  next =>
    split
    next =>
      split
      next => rfl
      next => cases afterSlashes scheme (front.dropWhile (isSlash true)) <;> rfl
    next =>
      split
      next cs =>
        rw [otherFrontOf]
        split
        next => rfl
        next => cases afterSlashes scheme cs <;> rfl
      next cs hslash =>
        rw [otherFrontOf_rooted hslash]
        rfl
      next hslash =>
        rw [otherFrontOf_plain hslash]
        rfl

/-! ## Fronts that were read -/

theorem properFileHost_empty [Idna] : ProperFileHost { host := .domain "" } :=
  ⟨rfl, nofun, rfl⟩

theorem render_host (host : Host) : (Authority.render { host }).toList = host.render.toList := by
  rw [toList_render_authority]
  simp [userText, portText, marked]

theorem isDrive_of_written {cs : List Char} (h : Host.Written cs) : isDrive cs = false := by
  unfold isDrive
  split
  next a b =>
    generalize hcs : [a, b] = cs at h
    cases h with
    | bare h =>
        subst hcs
        have hcolon : b ≠ ':' := by
          rintro rfl
          exact absurd (h ':' (by simp)) (by decide)
        have hbar : b ≠ '|' := by
          rintro rfl
          exact absurd (h '|' (by simp)) (by decide)
        simp [hcolon, hbar]
    | bracketed h =>
        have ha : a = '[' := (List.cons.inj hcs).1
        rw [ha]
        rfl
  next => rfl

theorem properFileHost_of_fileHost [Idna] [LawfulIdna] {cs : List Char} {a : Authority}
    (h : fileHost cs = .ok a) : ProperFileHost a := by
  unfold fileHost at h
  split at h
  next =>
    cases h
    exact properFileHost_empty
  next =>
    obtain ⟨host, hhost, h⟩ := Except.bind_eq_ok_iff.mp h
    cases h
    split
    next => exact properFileHost_empty
    next hlocal =>
      -- The host was not the local one when it was read, so it is not when it is read again.
      have hback := Host.readsBack_read hhost
      refine ⟨?_, ?_, ?_⟩
      · rw [render_host, fileHost]
        have hread : Host.read host.render.toList = .ok host := hback.read
        have hne : host.render.toList.isEmpty = false := by
          rw [List.isEmpty_eq_false_iff]
          intro hempty
          rw [hempty, Host.read_nil] at hread
          cases hread
        rw [hne, hread]
        simp only [Bool.false_eq_true, if_false]
        show Except.ok _ = _
        rw [if_neg hlocal]
      · rw [render_host]
        exact fun c hc => (isAuthorityChar_of_written hback.written c hc).1
      · rw [render_host]
        exact isDrive_of_written hback.written

theorem properFront_of_fileParts [Idna] [LawfulIdna] {cs : List Char} {a : Authority}
    {path : UrlPath} (h : fileParts cs = .ok (a, path)) : ProperFront "file" (some a) path := by
  have hparts : ∀ {host : Authority} {rest : List Char}, ProperFileHost host →
      ProperFront "file" (some host) (pathAfterAuthority "file" rest) := by
    intro host rest hhost
    obtain ⟨parts, heq, hproper⟩ := pathAfterAuthority_proper "file" rest
    rw [heq]
    exact .file hhost hproper
  unfold fileParts at h
  split at h
  next =>
    split at h
    next =>
      dsimp only at h
      split at h
      next =>
        cases h
        exact hparts properFileHost_empty
      next =>
        obtain ⟨host, hhost, h⟩ := Except.bind_eq_ok_iff.mp h
        cases h
        exact hparts (properFileHost_of_fileHost hhost)
    next =>
      cases h
      exact hparts properFileHost_empty
  next =>
    cases h
    exact hparts properFileHost_empty

theorem afterSlashes_eq_ok [Idna] [LawfulIdna] {scheme : String} {cs : List Char} {a : Authority}
    {path : UrlPath} (h : afterSlashes scheme cs = .ok (a, path)) :
    ProperAuthority scheme a ∧ ∃ parts, path = .segments parts ∧ ProperParts parts := by
  unfold afterSlashes at h
  obtain ⟨authority, hauthority, h⟩ := Except.bind_eq_ok_iff.mp h
  cases h
  exact ⟨proper_of_authorityOf hauthority, pathAfterAuthority_proper scheme _⟩

theorem properFront_of_otherFrontOf [Idna] [LawfulIdna] {scheme : String} {followed : Bool}
    {front : List Char} {a : Option Authority} {path : UrlPath} (hspecial : isSpecial scheme = false)
    (hhash : '#' ∉ front) (hmark : '?' ∉ front)
    (h : otherFrontOf scheme followed front = .ok (a, path)) : ProperFront scheme a path := by
  unfold otherFrontOf at h
  split at h
  next cs =>
    split at h
    next => cases h
    next =>
      obtain ⟨⟨a, path⟩, hparts, h⟩ := Except.map_eq_ok_iff.mp h
      cases h
      obtain ⟨ha, parts, rfl, hproper⟩ := afterSlashes_eq_ok hparts
      exact .other hspecial ha hproper
  next cs _ =>
    cases h
    obtain ⟨hne, hproper⟩ := segmentsOf_proper scheme cs
    exact .rooted hspecial hne hproper
  next hslash =>
    cases h
    refine .plain hspecial ?_ ?_
    · rw [String.toList_ofList]
      intro hhead
      obtain ⟨rest, hrest⟩ := List.head?_eq_some_iff.mp (Percent.head?_encode (by decide) hhead)
      exact hslash rest hrest
    · rw [String.toList_ofList]
      refine Percent.forall_mem_encode (by decide) (by decide) fun c hc hplain => ?_
      have hne : c ≠ '?' ∧ c ≠ '#' :=
        ⟨fun heq => hmark (heq ▸ hc), fun heq => hhash (heq ▸ hc)⟩
      rw [isFrontChar, hplain]
      simp [hne]

theorem properFront_of_frontOf [Idna] [LawfulIdna] {scheme : String} {followed : Bool}
    {front : List Char}
    {a : Option Authority} {path : UrlPath} (hhash : '#' ∉ front) (hmark : '?' ∉ front)
    (h : frontOf scheme followed front = .ok (a, path)) : ProperFront scheme a path := by
  unfold frontOf at h
  split at h
  next hfile =>
    rw [beq_iff_eq] at hfile
    subst hfile
    obtain ⟨⟨a, path⟩, hparts, h⟩ := Except.map_eq_ok_iff.mp h
    cases h
    exact properFront_of_fileParts hparts
  next hfile =>
    rw [beq_iff_eq] at hfile
    split at h
    next hspecial =>
      split at h
      next => cases h
      next =>
        obtain ⟨⟨a, path⟩, hparts, h⟩ := Except.map_eq_ok_iff.mp h
        cases h
        obtain ⟨ha, parts, rfl, hproper⟩ := afterSlashes_eq_ok hparts
        exact .web hspecial hfile ha hproper
    next hspecial =>
      rw [Bool.not_eq_true] at hspecial
      exact properFront_of_otherFrontOf hspecial hhash hmark h

/-! ## Texts of fronts -/

/-- The text of a path. -/
def pathChars : UrlPath → List Char
  | .plain text => text.toList
  | .segments parts => parts.flatMap fun part => '/' :: part.toList

/-- The text between scheme and query. -/
def frontText (a : Option Authority) (path : UrlPath) : List Char :=
  (match a with
    | some a => '/' :: '/' :: (Authority.render a).toList
    | none => if ['/', '/'] <+: pathChars path then ['/', '.'] else []) ++ pathChars path

theorem isFrontChar_of_plainInPath {c : Char} (h : plainInPath c = true) :
    isFrontChar c = true := by
  simp only [plainInPath, plainInFragment, isFrontChar, Bool.and_eq_true, Bool.not_eq_true',
    Bool.or_eq_false_iff] at h ⊢
  simp_all

theorem isFrontChar_of_isAuthorityChar {c : Char} (h : isAuthorityChar c = true) :
    isFrontChar c = true := by
  simp only [isAuthorityChar, isFrontChar, Bool.and_eq_true, Bool.not_eq_true'] at h ⊢
  simp_all

theorem isFrontChar_of_mem_pathChars {parts : List String} (h : ProperParts parts) :
    ∀ c ∈ pathChars (.segments parts), isFrontChar c = true := by
  intro c hc
  obtain ⟨part, hpart, hc⟩ := List.mem_flatMap.mp hc
  rcases List.mem_cons.mp hc with rfl | hc
  · decide
  · exact isFrontChar_of_plainInPath (h part hpart c hc)

theorem isFrontChar_of_mem_frontText [Idna] {scheme : String} {a : Option Authority}
    {path : UrlPath}
    (h : ProperFront scheme a path) : ∀ c ∈ frontText a path, isFrontChar c = true := by
  have hauthority : ∀ {a : Authority} {parts : List String},
      (∀ c ∈ (Authority.render a).toList, isAuthorityChar c = true) → ProperParts parts →
      ∀ c ∈ frontText (some a) (.segments parts), isFrontChar c = true := by
    intro a parts ha hparts c hc
    rcases List.mem_append.mp hc with hc | hc
    · rcases List.mem_cons.mp hc with rfl | hc
      · decide
      rcases List.mem_cons.mp hc with rfl | hc
      · decide
      · exact isFrontChar_of_isAuthorityChar (ha c hc)
    · exact isFrontChar_of_mem_pathChars hparts c hc
  have hnone : ∀ {path : UrlPath}, (∀ c ∈ pathChars path, isFrontChar c = true) →
      ∀ c ∈ frontText none path, isFrontChar c = true := by
    intro path hpath c hc
    rcases List.mem_append.mp hc with hc | hc
    · dsimp only at hc
      split at hc
      next =>
        rw [List.mem_cons, List.mem_singleton] at hc
        rcases hc with rfl | rfl <;> decide
      next => cases hc
    · exact hpath c hc
  cases h with
  | file ha hparts => exact hauthority ha.chars hparts
  | web hspecial hfile ha hparts => exact hauthority (isAuthorityChar_of_mem_render ha) hparts
  | other hspecial ha hparts => exact hauthority (isAuthorityChar_of_mem_render ha) hparts
  | rooted hspecial hne hparts => exact hnone (isFrontChar_of_mem_pathChars hparts)
  | plain hspecial hslash htext => exact hnone htext

theorem isSlash_of_isAuthorityChar {c : Char} (h : isAuthorityChar c = true) (special : Bool) :
    isSlash special c = false := by
  simp only [isAuthorityChar, isSlash, Bool.and_eq_true, Bool.not_eq_true',
    Bool.or_eq_false_iff] at h ⊢
  simp_all

/-- An authority and the path behind it are taken apart. -/
theorem span_authority {cs path : List Char} (h : ∀ c ∈ cs, isAuthorityChar c = true)
    (hpath : ∀ c ∈ path.head?, c = '/') (special : Bool) :
    (cs ++ path).takeWhile (fun c => !isSlash special c) = cs ∧
      (cs ++ path).dropWhile (fun c => !isSlash special c) = path := by
  have hcs : ∀ c ∈ cs, (!isSlash special c) = true := fun c hc => by
    rw [isSlash_of_isAuthorityChar (h c hc) special]
    rfl
  rw [List.takeWhile_append_of_pos hcs, List.dropWhile_append_of_pos hcs]
  cases path with
  | nil => simp
  | cons c path =>
      have hc : c = '/' := hpath c rfl
      simp [hc, isSlash]

theorem head?_pathChars (parts : List String) :
    ∀ c ∈ (pathChars (.segments parts)).head?, c = '/' := by
  cases parts <;> simp [pathChars]

theorem afterSlashes_text [Idna] [LawfulIdna] {scheme : String} {a : Authority}
    (h : ProperAuthority scheme a) (parts : List String) :
    ∃ path, afterSlashes scheme ((Authority.render a).toList ++ pathChars (.segments parts)) =
      .ok (a, path) := by
  obtain ⟨hbefore, hafter⟩ := span_authority (isAuthorityChar_of_mem_render h)
    (head?_pathChars parts) (isSpecial scheme)
  refine ⟨pathAfterAuthority scheme (pathChars (.segments parts)), ?_⟩
  unfold afterSlashes
  dsimp only
  rw [hbefore, hafter, authorityOf_render h]
  rfl

theorem fileParts_text [Idna] [LawfulIdna] {a : Authority} (h : ProperFileHost a)
    (parts : List String) :
    ∃ path, fileParts ('/' :: '/' :: ((Authority.render a).toList ++ pathChars (.segments parts))) =
      .ok (a, path) := by
  obtain ⟨hbefore, hafter⟩ := span_authority h.chars (head?_pathChars parts) true
  refine ⟨pathAfterAuthority "file" (pathChars (.segments parts)), ?_⟩
  unfold fileParts
  dsimp only
  rw [if_pos (by decide), hbefore, hafter, h.notDrive, h.read]
  rfl

theorem frontText_some (a : Authority) (path : UrlPath) :
    frontText (some a) path = '/' :: '/' :: ((Authority.render a).toList ++ pathChars path) := rfl

theorem frontOf_file [Idna] [LawfulIdna] {a : Authority} (h : ProperFileHost a)
    (parts : List String) (followed : Bool) :
    ∃ path, frontOf "file" followed (frontText (some a) (.segments parts)) =
      .ok (some a, path) := by
  obtain ⟨path, hparts⟩ := fileParts_text h parts
  refine ⟨path, ?_⟩
  unfold frontOf
  rw [if_pos (by decide), frontText_some, hparts]
  rfl

section Scheme

variable {scheme : String} {a : Authority}

theorem frontOf_web [Idna] [LawfulIdna] (hspecial : isSpecial scheme = true)
    (hfile : scheme ≠ "file")
    (h : ProperAuthority scheme a) (parts : List String) (followed : Bool) :
    ∃ path, frontOf scheme followed (frontText (some a) (.segments parts)) =
      .ok (some a, path) := by
  obtain ⟨path, hparts⟩ := afterSlashes_text h parts
  obtain ⟨c, cs, hcs⟩ := List.exists_cons_of_ne_nil (render_ne_nil h hspecial)
  -- All slashes are dropped, so the authority must not be empty for its path to stay.
  have hc : ¬isSlash true c = true := by
    rw [isSlash_of_isAuthorityChar (isAuthorityChar_of_mem_render h c (by simp [hcs])) true]
    exact Bool.false_ne_true
  have hdrop : (frontText (some a) (.segments parts)).dropWhile (isSlash true) =
      (Authority.render a).toList ++ pathChars (.segments parts) := by
    rw [frontText_some, List.dropWhile_cons_of_pos (by decide),
      List.dropWhile_cons_of_pos (by decide), hcs]
    exact List.dropWhile_cons_of_neg hc
  refine ⟨path, ?_⟩
  unfold frontOf
  rw [if_neg (by simpa using hfile), if_pos hspecial, hdrop, hparts, if_neg (by simp [hcs])]
  rfl

/-- No authority is written as an at sign alone, which is refused where something follows. -/
theorem render_ne_at [Idna] [LawfulIdna] (h : ProperAuthority scheme a) :
    (Authority.render a).toList ≠ ['@'] := by
  intro heq
  have hread := @authorityOf_render scheme true _ _ a h
  rw [heq, authorityOf_eq, authorityFrom_eq_ok_iff] at hread
  exact hread.notBlank ⟨rfl, rfl, rfl⟩

theorem text_ne_at [Idna] [LawfulIdna] (h : ProperAuthority scheme a) (parts : List String) :
    (Authority.render a).toList ++ pathChars (.segments parts) ≠ ['@'] := by
  intro heq
  cases parts with
  | nil => exact render_ne_at h (by simpa [pathChars] using heq)
  | cons part parts =>
      have hslash : '/' ∈ (Authority.render a).toList ++ pathChars (.segments (part :: parts)) := by
        simp [pathChars]
      rw [heq] at hslash
      exact absurd hslash (by decide)

theorem ne_file (hspecial : isSpecial scheme = false) : scheme ≠ "file" := by
  rintro rfl
  exact absurd hspecial (by decide)

theorem frontOf_other [Idna] [LawfulIdna] (hspecial : isSpecial scheme = false)
    (h : ProperAuthority scheme a) (parts : List String) (followed : Bool) :
    ∃ path, frontOf scheme followed (frontText (some a) (.segments parts)) =
      .ok (some a, path) := by
  obtain ⟨path, hparts⟩ := afterSlashes_text h parts
  refine ⟨path, ?_⟩
  unfold frontOf
  rw [if_neg (by simpa using ne_file hspecial), if_neg (by simp [hspecial]), frontText_some]
  show (if _ then _ else _) = _
  rw [hparts, if_neg (by simp [text_ne_at h parts])]
  rfl

theorem frontText_rooted {parts : List String} (hne : parts ≠ []) :
    ∃ cs, frontText none (.segments parts) = '/' :: cs ∧ cs.head? ≠ some '/' := by
  obtain ⟨part, rest, rfl⟩ := List.exists_cons_of_ne_nil hne
  unfold frontText
  dsimp only
  -- A path with an empty first segment is written behind a dot, or it would be an authority.
  split
  next => exact ⟨_, rfl, by simp⟩
  next hprefix =>
    refine ⟨_, rfl, fun hhead => hprefix ?_⟩
    obtain ⟨cs, hcs⟩ := List.head?_eq_some_iff.mp hhead
    exact ⟨cs, congrArg ('/' :: ·) hcs.symm⟩

theorem frontOf_rooted [Idna] [LawfulIdna] (hspecial : isSpecial scheme = false)
    {parts : List String} (hne : parts ≠ []) (followed : Bool) :
    ∃ path, frontOf scheme followed (frontText none (.segments parts)) = .ok (none, path) := by
  obtain ⟨cs, hcs, hslash⟩ := frontText_rooted hne
  unfold frontOf
  rw [if_neg (by simpa using ne_file hspecial), if_neg (by simp [hspecial]), hcs,
    otherFrontOf_rooted (by rintro rest rfl; exact hslash rfl)]
  exact ⟨_, rfl⟩

theorem frontText_plain {text : String} (hslash : text.toList.head? ≠ some '/') :
    frontText none (.plain text) = text.toList := by
  have hprefix : ¬['/', '/'] <+: text.toList := by
    rintro ⟨cs, hcs⟩
    exact hslash (by rw [← hcs]; rfl)
  unfold frontText
  dsimp only
  rw [pathChars, if_neg hprefix, List.nil_append]

theorem frontOf_plain [Idna] [LawfulIdna] (hspecial : isSpecial scheme = false) {text : String}
    (hslash : text.toList.head? ≠ some '/') (followed : Bool) :
    ∃ path, frontOf scheme followed (frontText none (.plain text)) = .ok (none, path) := by
  unfold frontOf
  rw [if_neg (by simpa using ne_file hspecial), if_neg (by simp [hspecial]),
    frontText_plain hslash, otherFrontOf_plain (by rintro rest hrest; simp [hrest] at hslash)]
  exact ⟨_, rfl⟩

/-- The authority of a URL is read back from the text between its scheme and its query. -/
theorem frontOf_frontText [Idna] [LawfulIdna] {authority : Option Authority} {path : UrlPath}
    (h : ProperFront scheme authority path) (followed : Bool) :
    ∃ path', frontOf scheme followed (frontText authority path) = .ok (authority, path') := by
  cases h with
  | file ha hparts => exact frontOf_file ha _ followed
  | web hspecial hfile ha hparts => exact frontOf_web hspecial hfile ha _ followed
  | other hspecial ha hparts => exact frontOf_other hspecial ha _ followed
  | rooted hspecial hne hparts => exact frontOf_rooted hspecial hne followed
  | plain hspecial hslash htext => exact frontOf_plain hspecial hslash followed

end Scheme

end Conformance.Url
