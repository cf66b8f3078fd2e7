import Conformance.Proofs.Template
import Conformance.Proofs.Text.Decimal
import Conformance.Token.Store
import Mathlib.Data.List.Nodup

/-!
# Names of tokens

The tokens of a store are named by the store's stem and the numbers from one on (`resolve_names`),
and a template reads such a name as one variable (`isNameChar_tokenName`). Such a name ends in a digit
(`tokenName_ne`), and two of one stem are the same only if their numbers are
(`tokenName_injective`): the digits are read as the number, however many zeros stand in front.

The numbers come from a word of 32 bits, which begins again from zero when it is full. So names are
distinct as long as no more than `2 ^ 32` of them are made, and not beyond that
(`nodup_numbered_iff`).
-/

namespace Conformance

open Template

/-- A digit may stand in the name of a variable. -/
theorem isNameChar_of_isDigit {c : Char} (h : Text.isDigit c = true) : isNameChar c = true := by
  have hc : '0' ≤ c ∧ c ≤ '9' := by
    simpa [Text.isDigit] using h
  simp [isNameChar, hc.1, hc.2]

/-- A letter may stand in the name of a variable. -/
theorem isNameChar_of_isAlpha {c : Char} (h : c.isAlpha = true) : isNameChar c = true := by
  have hcase : c.isUpper = true ∨ c.isLower = true := (Bool.or_eq_true _ _).mp h
  rcases hcase with hupper | hlower
  · have hc : 'A' ≤ c ∧ c ≤ 'Z' := of_decide_eq_true hupper
    simp [isNameChar, hc.1, hc.2]
  · have hc : 'a' ≤ c ∧ c ≤ 'z' := by
      obtain ⟨hlow, hhigh⟩ := (Bool.and_eq_true _ _).mp hlower
      exact ⟨of_decide_eq_true hlow, of_decide_eq_true hhigh⟩
    simp [isNameChar, hc.1, hc.2]

/-- The name of a family's tokens begins with name characters. -/
theorem SpecType.isNameChar_tokenStem (f : SpecType) :
    ∀ c ∈ f.tokenStem.toList, isNameChar c = true := by
  have hall : f.tokenStem.toList.all isNameChar = true := by
    cases f <;> rfl
  exact List.all_eq_true.mp hall

namespace TokenStore

theorem toList_tokenName (stem : String) (number : Nat) :
    (tokenName stem number).toList =
      stem.toList ++ "Token".toList ++ (Text.paddedDecimal 4 number).toList := by
  simp [tokenName, String.toList_append]

theorem tokenName_ne_empty (stem : String) (number : Nat) : tokenName stem number ≠ "" := by
  intro h
  have hlist := congrArg String.toList h
  rw [toList_tokenName] at hlist
  simp at hlist

/-- A token name is made of name characters if its stem is. -/
theorem isNameChar_tokenName {stem : String} (h : ∀ c ∈ stem.toList, isNameChar c = true)
    (number : Nat) : ∀ c ∈ (tokenName stem number).toList, isNameChar c = true := by
  intro c hc
  rw [toList_tokenName] at hc
  rcases List.mem_append.mp hc with hc | hc
  · rcases List.mem_append.mp hc with hc | hc
    · exact h c hc
    · have hword : "Token".toList.all isNameChar = true := rfl
      exact List.all_eq_true.mp hword c hc
  · exact isNameChar_of_isDigit (Text.isDigit_of_mem_paddedDecimal hc)

/-- A token name ends in a digit, so it is no name that ends otherwise. -/
theorem tokenName_ne (stem : String) (number : Nat) {name : String}
    (h : ∀ c ∈ name.toList.getLast?, c.isDigit = false) : tokenName stem number ≠ name := by
  rintro rfl
  cases hlast : (Text.paddedDecimal 4 number).toList.getLast? with
  | none => exact Text.paddedDecimal_ne_nil 4 number (List.getLast?_eq_none_iff.mp hlast)
  | some c =>
      have hc : c ∈ (tokenName stem number).toList.getLast? := by
        rw [toList_tokenName, List.getLast?_append, hlast]
        rfl
      have hdigit := Text.isDigit_of_mem_paddedDecimal (List.mem_of_getLast? hlast)
      rw [Text.isDigit_eq, h c hc] at hdigit
      cases hdigit

/-- A name of a stem tells its number. -/
theorem tokenName_injective (stem : String) : Function.Injective (tokenName stem) := by
  intro m n h
  have hlist := congrArg String.toList h
  rw [toList_tokenName, toList_tokenName] at hlist
  have hdigits := congrArg Text.readDecimal? (List.append_cancel_left hlist)
  rw [Text.readDecimal?_paddedDecimal, Text.readDecimal?_paddedDecimal] at hdigits
  exact Option.some.inj hdigits

example : tokenName "account" 9999 = "accountToken9999" ∧
    tokenName "account" 10000 = "accountToken10000" := by
  decide

/-! ## The names in a store -/

/-- The names with the numbers from one to `count`, as a word of 32 bits counts. -/
def numbered (stem : String) (count : Nat) : List String :=
  (List.range' 1 count).map fun number => tokenName stem (number % 2 ^ 32)

theorem length_numbered (stem : String) (count : Nat) : (numbered stem count).length = count := by
  rw [numbered, List.length_map, List.length_range']

/-- A counter that has counted to a number goes on to the next one. -/
theorem toNat_count_succ (count : Nat) : (UInt32.ofNat count + 1).toNat = (count + 1) % 2 ^ 32 := by
  rw [UInt32.toNat_add, UInt32.toNat_ofNat']
  exact Nat.mod_add_mod count (2 ^ 32) 1

theorem ofNat_count_succ (count : Nat) : UInt32.ofNat (count + 1) = UInt32.ofNat count + 1 :=
  UInt32.ofNat_add count 1

/-- The next name is the one that follows on those that were counted. -/
theorem numbered_succ (stem : String) (count : Nat) :
    numbered stem (count + 1) =
      numbered stem count ++ [tokenName stem (UInt32.ofNat count + 1).toNat] := by
  rw [numbered, List.range'_1_concat, List.map_append, Nat.add_comm 1 count, toNat_count_succ]
  rfl

theorem nodup_numbered {count : Nat} (h : count ≤ 2 ^ 32) (stem : String) :
    (numbered stem count).Nodup := by
  refine List.Nodup.map_on ?_ List.nodup_range'
  intro m hm n hn hname
  have hmod := tokenName_injective stem hname
  rw [List.mem_range'_1] at hm hn
  omega

/-- Names are distinct as long as the counter has not begun again with the number one. -/
theorem nodup_numbered_iff (stem : String) (count : Nat) :
    (numbered stem count).Nodup ↔ count ≤ 2 ^ 32 := by
  refine ⟨fun hnodup => ?_, fun h => nodup_numbered h stem⟩
  by_contra hmany
  have hmod : (2 ^ 32 + 1) % 2 ^ 32 = 1 % 2 ^ 32 := by
    decide
  have hsame := List.inj_on_of_nodup_map hnodup (List.mem_range'_1.mpr ⟨Nat.le_refl 1, by omega⟩)
    (List.mem_range'_1.mpr ⟨Nat.le_add_left 1 (2 ^ 32), by omega⟩)
    (congrArg (tokenName stem) hmod.symm)
  exact absurd hsame (by decide)

/-- Whether the groups have the names that were made, in order. -/
structure Numbered (s : TokenStore) : Prop where
  counted : s.made = UInt32.ofNat s.groups.length
  named : s.groups.map TokenGroup.name = numbered s.stem s.groups.length

/-- A need that joins a group leaves the names as they are. -/
theorem map_name_join? {n : PermissionNeed} {groups groups' : List TokenGroup}
    (h : join? n groups = some groups') :
    groups'.map TokenGroup.name = groups.map TokenGroup.name := by
  induction groups generalizing groups' with
  | nil => simp [join?] at h
  | cons g rest ih =>
      unfold join? at h
      split at h
      · cases h
        rfl
      · obtain ⟨rest', hrest, rfl⟩ := Option.map_eq_some_iff.mp h
        rw [List.map_cons, List.map_cons, ih hrest]

/-- A need that is placed leaves the names of the groups as they are, or starts a group behind them with
the next name. -/
theorem place_named (s : TokenStore) (n : PermissionNeed) :
    (∃ groups, s.place n = { s with groups := groups } ∧
        groups.map TokenGroup.name = s.groups.map TokenGroup.name) ∨
      ∃ g : TokenGroup, g.name = tokenName s.stem (s.made + 1).toNat ∧
        s.place n = { s with made := s.made + 1, groups := s.groups ++ [g] } := by
  unfold place
  split
  next groups hjoin =>
    left
    exact ⟨groups, rfl, map_name_join? hjoin⟩
  next =>
    right
    exact ⟨TokenGroup.absorb ⟨tokenName s.stem (s.made + 1).toNat, [], [], []⟩ n, rfl, rfl⟩

theorem stem_place (s : TokenStore) (n : PermissionNeed) : (s.place n).stem = s.stem := by
  rcases place_named s n with ⟨groups, hplace, -⟩ | ⟨g, -, hplace⟩ <;> rw [hplace]

theorem Numbered.place {s : TokenStore} (h : s.Numbered) (n : PermissionNeed) :
    (s.place n).Numbered := by
  rcases place_named s n with ⟨groups, hplace, hsame⟩ | ⟨g, hname, hplace⟩
  · have hlength : groups.length = s.groups.length := by
      simpa using congrArg List.length hsame
    rw [hplace]
    exact ⟨h.counted.trans (congrArg UInt32.ofNat hlength.symm),
      hsame.trans (h.named.trans (congrArg (numbered s.stem) hlength.symm))⟩
  · rw [hplace]
    constructor
    · rw [List.length_append, List.length_singleton, ofNat_count_succ, ← h.counted]
    · rw [List.map_append, List.map_singleton, List.length_append, List.length_singleton,
        numbered_succ, hname, h.named, ← h.counted]

theorem Numbered.addAll {s s' : TokenStore} {needs : List PermissionNeed} (h : s.Numbered)
    (hs : s.addAll needs = .ok s') : s'.Numbered ∧ s'.stem = s.stem := by
  induction needs generalizing s with
  | nil =>
      cases hs
      exact ⟨h, rfl⟩
  | cons n rest ih =>
      unfold TokenStore.addAll add at hs
      by_cases hn : n.conflicts.isEmpty = true
      · rw [if_pos hn] at hs
        obtain ⟨hnumbered, hstem⟩ := ih (h.place n) hs
        exact ⟨hnumbered, hstem.trans (stem_place s n)⟩
      · rw [if_neg hn] at hs
        cases hs

/-- Tokens are numbered from one on, in their order. -/
theorem resolve_names {stem : String} {needs : List PermissionNeed}
    {tokens : List TokenRequirement} (h : resolve stem needs = .ok tokens) :
    tokens.map (·.name) = numbered stem tokens.length := by
  unfold resolve at h
  split at h
  · cases h
  next s hs =>
    cases h
    have hnew : (TokenStore.new stem).Numbered := ⟨rfl, rfl⟩
    obtain ⟨hnumbered, hstem⟩ := hnew.addAll hs
    have hstem' : s.stem = stem := hstem
    rw [requirements, List.map_map, List.length_map, ← hstem']
    exact hnumbered.named

/-- Every token is named by the stem and a number. -/
theorem resolve_name {stem : String} {needs : List PermissionNeed}
    {tokens : List TokenRequirement} (h : resolve stem needs = .ok tokens) :
    ∀ t ∈ tokens, ∃ number, t.name = tokenName stem number := by
  intro t ht
  have hname : t.name ∈ numbered stem tokens.length := by
    rw [← resolve_names h]
    exact List.mem_map_of_mem ht
  obtain ⟨number, -, hnumber⟩ := List.mem_map.mp hname
  exact ⟨number % 2 ^ 32, hnumber.symm⟩

end TokenStore

end Conformance
