import Conformance.Proofs.Template.Scan
import Conformance.Proofs.Token.Calls
import Conformance.Proofs.Token.Naming

/-!
# Names on request

A store is asked for names and for places in any order, and one counter serves both: a name that is
asked for is handed out, and a need that may join no group has one made for a group of its own. A need
that joins a group takes none, and neither does one that contradicts itself.

`serve` meets a request and tells the names that were made for it. What it may do is said once, in
`serve_cases`: it makes no name and leaves the names of the groups as they are, or it makes the next one,
and then at most one group comes behind the others, with that name. From this `serveAll_names` follows
for requests in any number: the `k`-th name has the number `k`, so all are distinct, and the names of
the groups are some of them, in the same order. A template reads each of them as one variable.

The counter is a word of 32 bits. With fewer than `2 ^ 32` names it never comes to its end, and tells at
any time how many names have been made.
-/

namespace Conformance

namespace TokenStore

/-! ## One request -/

variable {s : TokenStore} {n : PermissionNeed}

theorem serve_place_of_selfConflicting (h : n.SelfConflicting) :
    s.serve (.place n) = ([], s) := by
  have hcall : ((submit n).on s).2 = s := by
    rw [submit_on, add_of_selfConflicting h]
  simp only [serve, hcall, List.drop_length, List.map_nil]

theorem serve_place_of_not_selfConflicting (h : ¬ n.SelfConflicting) :
    s.serve (.place n) =
      (((s.place n).groups.drop s.groups.length).map TokenGroup.name, s.place n) := by
  have hcall : ((submit n).on s).2 = s.place n := by
    rw [submit_on, add_of_not_selfConflicting h]
  simp only [serve, hcall]

/-- A request makes no name, and the groups keep theirs; or it makes the next name, and if a group is
started then it has that name. -/
theorem serve_cases (s : TokenStore) (r : Request) :
    (∃ groups, s.serve r = ([], { s with groups := groups }) ∧
        groups.map TokenGroup.name = s.groupNames) ∨
      ∃ started, s.serve r = ([tokenName s.stem (s.made + 1).toNat],
          { s with made := s.made + 1, groups := s.groups ++ started }) ∧
        (started.map TokenGroup.name).Sublist [tokenName s.stem (s.made + 1).toNat] := by
  cases r with
  | name =>
      right
      refine ⟨[], ?_, List.nil_sublist _⟩
      simp only [serve, nextName, List.append_nil]
  | place n =>
      by_cases hn : n.SelfConflicting
      · left
        exact ⟨s.groups, serve_place_of_selfConflicting hn, rfl⟩
      · rw [serve_place_of_not_selfConflicting hn]
        rcases place_named s n with ⟨groups, hplace, hsame⟩ | ⟨g, hname, hplace⟩
        · left
          have hlength : groups.length = s.groups.length := by
            simpa using congrArg List.length hsame
          refine ⟨groups, ?_, hsame⟩
          rw [hplace, ← hlength, List.drop_length, List.map_nil]
        · right
          refine ⟨[g], ?_, ?_⟩
          · rw [hplace, List.drop_left, List.map_singleton, hname]
          · rw [List.map_singleton, hname]

/-! ## One request after the other -/

theorem serveAll_append (front back : List Request) (s : TokenStore) :
    serveAll (front ++ back) s =
      ((serveAll front s).1 ++ (serveAll back (serveAll front s).2).1,
        (serveAll back (serveAll front s).2).2) := by
  induction front generalizing s with
  | nil => rfl
  | cons r rest ih => simp only [List.cons_append, serveAll, ih, List.append_assoc]

/-- The names that were made are numbered, the counter has counted them, and the groups have some of
them. -/
structure Accounts (stem : String) (names : List String) (s : TokenStore) : Prop where
  stem_eq : s.stem = stem
  counted : s.made = UInt32.ofNat names.length
  names_eq : names = numbered stem names.length
  carried : s.groupNames.Sublist names

theorem Accounts.serve {stem : String} {names : List String} (h : Accounts stem names s)
    (r : Request) : Accounts stem (names ++ (s.serve r).1) (s.serve r).2 := by
  obtain ⟨rfl, hcounted, hnames, hcarried⟩ := h
  rcases serve_cases s r with ⟨groups, hserve, hsame⟩ | ⟨started, hserve, hstarted⟩
  · rw [hserve, List.append_nil]
    refine ⟨rfl, hcounted, hnames, ?_⟩
    rw [groupNames, hsame]
    exact hcarried
  · rw [hserve]
    refine ⟨rfl, ?_, ?_, ?_⟩
    · rw [List.length_append, List.length_singleton, ofNat_count_succ, ← hcounted]
    · rw [List.length_append, List.length_singleton, numbered_succ, ← hcounted, ← hnames]
    · rw [groupNames, List.map_append]
      exact hcarried.append hstarted

theorem Accounts.serveAll {stem : String} {names : List String} (h : Accounts stem names s)
    (requests : List Request) :
    Accounts stem (names ++ (serveAll requests s).1) (serveAll requests s).2 := by
  induction requests generalizing s names with
  | nil =>
      rw [TokenStore.serveAll, List.append_nil]
      exact h
  | cons r rest ih =>
      rw [TokenStore.serveAll, ← List.append_assoc]
      exact ih (h.serve r)

theorem accounts_serveAll (stem : String) (requests : List Request) :
    Accounts stem (serveAll requests (new stem)).1 (serveAll requests (new stem)).2 := by
  have hnew : Accounts stem [] (new stem) := ⟨rfl, rfl, rfl, .slnil⟩
  have hall := hnew.serveAll requests
  rwa [List.nil_append] at hall

/-- Groups are neither moved nor renamed. -/
theorem groupNames_serveAll_prefix (requests : List Request) (s : TokenStore) :
    s.groupNames <+: (serveAll requests s).2.groupNames := by
  induction requests generalizing s with
  | nil => exact List.prefix_rfl
  | cons r rest ih =>
      have hserve : s.groupNames <+: (s.serve r).2.groupNames := by
        rcases serve_cases s r with ⟨groups, hserve, hsame⟩ | ⟨started, hserve, -⟩
        · rw [hserve, ← hsame]
          exact List.prefix_rfl
        · rw [hserve, groupNames, groupNames, List.map_append]
          exact List.prefix_append _ _
      exact hserve.trans (ih (s.serve r).2)

/-! ## Names in order -/

/-- Names are numbered in their order, and the groups of a store have some of them. -/
structure NamesInOrder (stem : String) (names : List String) (s : TokenStore) : Prop where
  /-- Each name is the stem, `Token`, and the number of its place, counted from one. -/
  numbered : ∀ (k : Nat) (h : k < names.length),
    names[k] = stem ++ "Token" ++ Text.paddedDecimal 4 (k + 1)
  /-- That number is written in decimal digits, with zeros in front up to four. -/
  padded : ∀ k < names.length, Text.Padded 4 (k + 1) (Text.paddedDecimal 4 (k + 1)).toList
  /-- No two names are the same. -/
  distinct : names.Nodup
  /-- The counter has gone on once for each name, and has not begun again. -/
  counted : s.made.toNat = names.length
  /-- The names of the groups are some of them, in the same order. -/
  carried : s.groupNames.Sublist names

theorem getElem_numbered {count : Nat} (hfew : count < 2 ^ 32) (stem : String) {k : Nat}
    (h : k < (numbered stem count).length) :
    (numbered stem count)[k] = stem ++ "Token" ++ Text.paddedDecimal 4 (k + 1) := by
  have hk : k < count := by rwa [length_numbered] at h
  have hmod : (k + 1) % 2 ^ 32 = k + 1 := Nat.mod_eq_of_lt (by omega)
  simp only [numbered, List.getElem_map, List.getElem_range', tokenName, Nat.one_mul,
    Nat.add_comm 1 k, hmod]

theorem Accounts.inOrder {stem : String} {names : List String} (h : Accounts stem names s)
    (hfew : names.length < 2 ^ 32) : NamesInOrder stem names s := by
  refine ⟨?_, ?_, ?_, ?_, h.carried⟩
  · intro k hk
    rw [List.getElem_of_eq h.names_eq]
    exact getElem_numbered hfew stem _
  · intro k _
    exact Text.padded_paddedDecimal 4 (Nat.succ_ne_zero k)
  · rw [h.names_eq]
    exact nodup_numbered (Nat.le_of_lt hfew) stem
  · rw [h.counted]
    exact UInt32.toNat_ofNat_of_lt hfew

/-- **Names on request.** However a store is asked for names and places: as long as it makes fewer than
`2 ^ 32` names, they are numbered in their order and all distinct, and the groups have some of them, in
the same order, which is that in which they were started. At any time the counter tells how many names
have been made. If the stem consists of letters, then each name behind a dollar sign is one variable of
that name. -/
theorem serveAll_names (stem : String) (requests : List Request)
    (hfew : (serveAll requests (new stem)).1.length < 2 ^ 32) :
    NamesInOrder stem (serveAll requests (new stem)).1 (serveAll requests (new stem)).2 ∧
    (∀ front, front <+: requests →
      (serveAll front (new stem)).2.made.toNat = (serveAll front (new stem)).1.length ∧
      (serveAll front (new stem)).2.groupNames <+: (serveAll requests (new stem)).2.groupNames) ∧
    ((∀ c ∈ stem.toList, c.isAlpha = true) → ∀ name ∈ (serveAll requests (new stem)).1,
      Template.scan ("$" ++ name) 0 = some [⟨0, ("$" ++ name).utf8ByteSize, name⟩]) := by
  refine ⟨(accounts_serveAll stem requests).inOrder hfew, ?_, ?_⟩
  · rintro front ⟨back, rfl⟩
    rw [serveAll_append] at hfew ⊢
    rw [List.length_append] at hfew
    constructor
    · exact ((accounts_serveAll stem front).inOrder (by omega)).counted
    · exact groupNames_serveAll_prefix back _
  · intro hletters name hname
    rw [(accounts_serveAll stem requests).names_eq] at hname
    obtain ⟨number, -, rfl⟩ := List.mem_map.mp hname
    apply Template.scan_dollar_name (tokenName_ne_empty stem _)
    apply isNameChar_tokenName
    intro c hc
    exact isNameChar_of_isAlpha (hletters c hc)

/-- A need that starts a group, a name that is handed out, a need that contradicts itself, one that joins
the group and one that starts another. -/
def sampleRequests : List Request :=
  [.place ⟨"t1", ["A"], [""]⟩, .name, .place ⟨"t2", ["B"], ["B"]⟩, .place ⟨"t3", ["B"], []⟩,
    .place ⟨"t4", [], ["A"]⟩]

theorem sampleRequests_names :
    (serveAll sampleRequests (new "account")).1 =
        ["accountToken0001", "accountToken0002", "accountToken0003"] ∧
      (serveAll sampleRequests (new "account")).1.length < 2 ^ 32 ∧
      (serveAll sampleRequests (new "account")).2.groupNames =
        ["accountToken0001", "accountToken0003"] ∧
      NamesInOrder "account" (serveAll sampleRequests (new "account")).1
        (serveAll sampleRequests (new "account")).2 ∧
      Template.scan "$accountToken0003" 0 = some [⟨0, 17, "accountToken0003"⟩] := by
  have hnames : (serveAll sampleRequests (new "account")).1 =
      ["accountToken0001", "accountToken0002", "accountToken0003"] := by rfl
  have hfew : (serveAll sampleRequests (new "account")).1.length < 2 ^ 32 := by
    rw [hnames]
    decide
  have hletters : "account".toList.all Char.isAlpha = true := rfl
  obtain ⟨hordered, -, hscan⟩ := serveAll_names "account" sampleRequests hfew
  refine ⟨hnames, hfew, rfl, hordered, ?_⟩
  exact hscan (List.all_eq_true.mp hletters) "accountToken0003" (by simp [hnames])

end TokenStore

end Conformance
