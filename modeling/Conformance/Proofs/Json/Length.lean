import Conformance.Proofs.Json.Reading
import Mathlib.Data.List.TakeWhile

/-!
# How long a text must be

A text is never shorter than its value calls for (`leastLength`), and only as short if no string in
it needs an escape (`tight_parse`): an escape takes more characters than the one that it stands for.
So a text in which strings were put as they are is read as these strings only if they need no escape
at all, even where it happens to be read as something.
-/

namespace Conformance.Json

open Draft

/-! ## Characters that need no escape -/

/-- Whether a character stands for itself in a string literal. -/
def isBare (c : Char) : Bool := !(c == '"' || c == '\\' || c.toNat < 0x20)

/-- Whether every character of a text stands for itself in a string literal. -/
def isBareText (s : String) : Bool := s.toList.all isBare

theorem escapeChar_bare {c : Char} (h : isBare c = true) : escapeChar c = [c] := by
  simp only [isBare, Bool.not_eq_true', Bool.or_eq_false_iff, beq_eq_false_iff_ne,
    decide_eq_false_iff_not, Nat.not_lt] at h
  obtain ⟨⟨hquote, hslash⟩, hcontrol⟩ := h
  unfold escapeChar
  split
  · exact absurd rfl hquote
  · exact absurd rfl hslash
  · exact absurd hcontrol (by decide)
  · exact absurd hcontrol (by decide)
  · exact absurd hcontrol (by decide)
  · rw [if_neg (by omega), if_neg (by omega), if_neg (by omega), if_neg (by omega)]

theorem quoteChars_bare {s : String} (h : isBareText s = true) :
    quoteChars s.toList = '"' :: (s.toList ++ ['"']) := by
  have hself : s.toList.flatMap escapeChar = s.toList := by
    have hbare := List.all_eq_true.mp h
    generalize s.toList = cs at hbare
    induction cs with
    | nil => rfl
    | cons c rest ih =>
        obtain ⟨hc, hrest⟩ := List.forall_mem_cons.mp hbare
        rw [List.flatMap_cons, escapeChar_bare hc, ih hrest, List.singleton_append]
  rw [quoteChars, hself]

/-! ## Lengths and strings of values -/

mutual

/-- The number of characters that a text of a value has at least; numbers are not counted. -/
def leastLength : Json → Nat
  | .null => 4
  | .bool b => if b then 4 else 5
  | .number _ => 0
  | .string s => s.length + 2
  | .array items => max 1 (itemLengths items) + 1
  | .object members => max 1 (memberLengths members) + 1

/-- Those of items, each with what stands behind it. -/
def itemLengths : List Json → Nat
  | [] => 0
  | v :: rest => leastLength v + 1 + itemLengths rest

/-- Those of members, each with its colon and what stands behind it. -/
def memberLengths : List (String × Json) → Nat
  | [] => 0
  | (k, v) :: rest => k.length + 2 + (leastLength v + 2) + memberLengths rest

end

mutual

/-- The strings in a value, names of members included. -/
def texts : Json → List String
  | .string s => [s]
  | .array items => itemTexts items
  | .object members => memberTexts members
  | _ => []

/-- The strings in items. -/
def itemTexts : List Json → List String
  | [] => []
  | v :: rest => v.texts ++ itemTexts rest

/-- The strings in members. -/
def memberTexts : List (String × Json) → List String
  | [] => []
  | (k, v) :: rest => k :: (v.texts ++ memberTexts rest)

end

theorem mem_memberTexts {members : List (String × Json)} {s : String} :
    s ∈ memberTexts members ↔ ∃ m ∈ members, s = m.1 ∨ s ∈ m.2.texts := by
  induction members with
  | nil => simp [memberTexts]
  | cons m rest ih =>
      obtain ⟨k, v⟩ := m
      simp [memberTexts, ih, or_assoc]

/-! ## Members that are kept -/

theorem memberLengths_putEntry (k : String) (v : Json) (l : List (String × Json)) :
    memberLengths (KeyMap.putEntry k v l) ≤ k.length + 2 + (leastLength v + 2) + memberLengths l := by
  induction l with
  | nil => simp [KeyMap.putEntry, memberLengths]
  | cons e rest ih =>
      obtain ⟨k', v'⟩ := e
      unfold KeyMap.putEntry
      split
      · simp only [memberLengths]
        omega
      · split
        · simp only [memberLengths]
          omega
        · simp only [memberLengths]
          omega

theorem memberLengths_putAll (m : KeyMap Json) (members : List (String × Json)) :
    memberLengths (m.putAll members).entries ≤ memberLengths m.entries + memberLengths members := by
  induction members generalizing m with
  | nil => simp [KeyMap.putAll, memberLengths]
  | cons e rest ih =>
      obtain ⟨k, v⟩ := e
      have hput := memberLengths_putEntry k v m.entries
      have hrest := ih (m.put k v)
      simp only [memberLengths]
      show memberLengths ((m.put k v).putAll rest).entries ≤ _
      have hentries : (m.put k v).entries = KeyMap.putEntry k v m.entries := rfl
      rw [hentries] at hrest
      omega

/-! ## Literals -/

/-- Every piece takes a character at least, and only one if it is a character that needs no escape. -/
theorem scanPieces_tight (cs : List Char) : ∀ ps rest, scanPieces cs = (ps, .ok rest) →
    ps.length + 1 + rest.length ≤ cs.length ∧
      (ps.length + 1 + rest.length = cs.length →
        ∃ bare : List Char, ps = bare.map Piece.char ∧ ∀ c ∈ bare, isBare c = true) := by
  fun_induction scanPieces cs
  all_goals
    intro ps rest h
    try cases h
  case case2 => exact ⟨Nat.le_of_eq (Nat.add_comm 1 _), fun _ => ⟨[], rfl, nofun⟩⟩
  case case5 tail _ _ pieces ih hscan =>
    have hle := (ih pieces rest hscan).1
    simp only [List.length_cons]
    exact ⟨by omega, fun heq => by omega⟩
  case case8 tail _ _ _ _ pieces ih hscan =>
    have hle := (ih pieces rest hscan).1
    simp only [List.length_cons]
    exact ⟨by omega, fun heq => by omega⟩
  case case10 c tail hquote hend _ _ hslash hcontrol pieces ih hscan =>
    obtain ⟨hle, htight⟩ := ih pieces rest hscan
    simp only [List.length_cons]
    refine ⟨by omega, fun heq => ?_⟩
    obtain ⟨bare, rfl, hbare⟩ := htight (by omega)
    have hc : isBare c = true := by
      have hescape : c ≠ '\\' := by
        intro hc
        cases tail with
        | nil => exact hend hc rfl
        | cons d tail => exact hslash d tail hc rfl
      simp [isBare, hescape, hcontrol, show c ≠ '"' from hquote]
    exact ⟨c :: bare, rfl, List.forall_mem_cons.mpr ⟨hc, hbare⟩⟩

theorem length_le_of_joinPieces (ending : Option Problem) (ps : List Piece) :
    ∀ text, joinPieces ending ps = .ok text → text.length ≤ ps.length := by
  fun_induction joinPieces ending ps <;> grind [Except.map_eq_ok_iff]

theorem joinPieces_chars (cs : List Char) : joinPieces none (cs.map Piece.char) = .ok cs := by
  induction cs with
  | nil => rfl
  | cons c rest ih =>
      rw [List.map_cons, joinPieces, ih]
      rfl

/-- A name of so many characters with its quotation marks is as long as it must be, and no longer only
if it needs no escape. -/
def TightName (n : Nat) (key : Except Problem String) : Prop :=
  ∀ s, key = .ok s → s.length + 2 ≤ n ∧ (s.length + 2 = n → isBareText s = true)

theorem scanString_tight {cs rest : List Char} {key : Except Problem String}
    (h : scanString cs = (key, .ok rest)) :
    ∃ n, n + rest.length = cs.length + 1 ∧ TightName n key := by
  rcases hscan : scanPieces cs with ⟨ps, after⟩
  simp only [scanString, hscan, Prod.mk.injEq] at h
  obtain ⟨hjoin, rfl⟩ := h
  obtain ⟨hle, htight⟩ := scanPieces_tight cs ps rest hscan
  refine ⟨cs.length + 1 - rest.length, by omega, fun s hs => ?_⟩
  obtain ⟨text, htext, rfl⟩ := Except.map_eq_ok_iff.mp (hjoin.trans hs)
  have hlength := length_le_of_joinPieces _ _ _ htext
  rw [String.length_ofList]
  refine ⟨by omega, fun heq => ?_⟩
  obtain ⟨bare, rfl, hbare⟩ := htight (by omega)
  rw [faultOf, joinPieces_chars] at htext
  cases htext
  rw [isBareText, String.toList_ofList, List.all_eq_true]
  exact hbare

theorem length_le_of_scanNumber {cs rest : List Char} {v : Except Problem Number}
    (h : scanNumber cs = (v, .ok rest)) : rest.length ≤ cs.length := by
  have hdrop := fun l : List Char => List.length_dropWhile_le Text.isDigit l
  unfold scanNumber at h
  grind

theorem scanName_length {value d : Draft} {name cs rest : List Char}
    (h : scanName value name cs = (d, .ok rest)) :
    d = value ∧ cs.length = name.length + rest.length := by
  fun_induction scanName value name cs <;> grind

/-! ## Values -/

/-- A draft of so many characters, read as a value, has the characters that the value calls for, and no
more only if no string in the value needs an escape. -/
def Tight (n : Nat) (d : Draft) : Prop :=
  ∀ depth v, value depth d = .ok v →
    leastLength v ≤ n ∧ (leastLength v = n → ∀ s ∈ v.texts, isBareText s = true)

/-- The same of items up to the end of their array. -/
def TightItems (n : Nat) (ds : List Draft) : Prop :=
  ∀ depth vs, values depth ds = .ok vs →
    max 1 (itemLengths vs) ≤ n ∧
      (max 1 (itemLengths vs) = n → ∀ s ∈ itemTexts vs, isBareText s = true)

/-- The same of members up to the end of their object. -/
def TightMembers (n : Nat) (ds : List (Except Problem String × Draft)) : Prop :=
  ∀ depth ms, memberValues depth ds = .ok ms →
    max 1 (memberLengths ms) ≤ n ∧
      (max 1 (memberLengths ms) = n → ∀ s ∈ memberTexts ms, isBareText s = true)

variable {n n' : Nat} {d : Draft}

theorem tight_array {ds : List Draft} {fault : Option Problem} (h : TightItems n ds) :
    Tight (n + 1) (.array ds fault) := by
  intro depth v hv
  rw [value] at hv
  obtain ⟨k, -, hv⟩ := Except.bind_eq_ok_iff.mp hv
  obtain ⟨vs, hvs, hv⟩ := Except.bind_eq_ok_iff.mp hv
  obtain ⟨-, -, hv⟩ := Except.bind_eq_ok_iff.mp hv
  cases hv
  obtain ⟨hleast, htight⟩ := h k vs hvs
  rw [leastLength, texts]
  exact ⟨by omega, fun heq => htight (by omega)⟩

theorem tight_object {ds : List (Except Problem String × Draft)} {fault : Option Problem}
    (h : TightMembers n ds) : Tight (n + 1) (.object ds fault) := by
  intro depth v hv
  rw [value] at hv
  obtain ⟨k, -, hv⟩ := Except.bind_eq_ok_iff.mp hv
  obtain ⟨ms, hms, hv⟩ := Except.bind_eq_ok_iff.mp hv
  obtain ⟨-, -, hv⟩ := Except.bind_eq_ok_iff.mp hv
  cases hv
  -- Of members with one name only the last is kept, so a text with others is too long already.
  obtain ⟨hleast, htight⟩ := h k ms hms
  have hkept := memberLengths_putAll .empty ms
  rw [objectOf, leastLength, texts]
  have hnone : memberLengths (KeyMap.empty : KeyMap Json).entries = 0 := rfl
  refine ⟨by rw [KeyMap.ofList]; omega, fun heq s hs => ?_⟩
  obtain ⟨m, hm, hs⟩ := mem_memberTexts.mp hs
  rw [KeyMap.ofList] at heq hm
  rcases KeyMap.mem_putAll hm with hm | hm
  · cases hm
  · exact htight (by omega) s (mem_memberTexts.mpr ⟨m, hm, hs⟩)

theorem tightItems_last (h : Tight n d) : TightItems (n + 1) [d] := by
  intro depth vs hvs
  obtain ⟨v, hv, hvs⟩ := Except.bind_eq_ok_iff.mp hvs
  cases hvs
  obtain ⟨hleast, htight⟩ := h depth v hv
  simp only [itemLengths, itemTexts, List.append_nil]
  exact ⟨by omega, fun heq => htight (by omega)⟩

theorem tightItems_next {ds : List Draft} (h : Tight n d) (h' : TightItems n' ds) :
    TightItems (n + 1 + n') (d :: ds) := by
  intro depth vs hvs
  obtain ⟨v, hv, hvs⟩ := Except.bind_eq_ok_iff.mp hvs
  obtain ⟨vs', hvs', hvs⟩ := Except.bind_eq_ok_iff.mp hvs
  cases hvs
  obtain ⟨hleast, htight⟩ := h depth v hv
  obtain ⟨hleast', htight'⟩ := h' depth vs' hvs'
  simp only [itemLengths, itemTexts, List.mem_append]
  refine ⟨by omega, fun heq s hs => ?_⟩
  rcases hs with hs | hs
  · exact htight (by omega) s hs
  · exact htight' (by omega) s hs

theorem tightMembers_last {m : Nat} {key : Except Problem String} (hkey : TightName m key)
    (h : Tight n d) : TightMembers (m + (n + 2)) [(key, d)] := by
  intro depth ms hms
  obtain ⟨k, hk, hms⟩ := Except.bind_eq_ok_iff.mp hms
  obtain ⟨v, hv, hms⟩ := Except.bind_eq_ok_iff.mp hms
  cases hms
  obtain ⟨hname, hbare⟩ := hkey k hk
  obtain ⟨hleast, htight⟩ := h depth v hv
  simp only [memberLengths, memberTexts, List.append_nil]
  exact ⟨by omega, fun heq => List.forall_mem_cons.mpr ⟨hbare (by omega), htight (by omega)⟩⟩

theorem tightMembers_next {m : Nat} {key : Except Problem String}
    {ds : List (Except Problem String × Draft)} (hkey : TightName m key) (h : Tight n d)
    (h' : TightMembers n' ds) : TightMembers (m + (n + 2) + n') ((key, d) :: ds) := by
  intro depth ms hms
  obtain ⟨k, hk, hms⟩ := Except.bind_eq_ok_iff.mp hms
  obtain ⟨v, hv, hms⟩ := Except.bind_eq_ok_iff.mp hms
  obtain ⟨ms', hms', hms⟩ := Except.bind_eq_ok_iff.mp hms
  cases hms
  obtain ⟨hname, hbare⟩ := hkey k hk
  obtain ⟨hleast, htight⟩ := h depth v hv
  obtain ⟨hleast', htight'⟩ := h' depth ms' hms'
  simp only [memberLengths, memberTexts, List.mem_cons, List.mem_append]
  refine ⟨by omega, fun heq s hs => ?_⟩
  rcases hs with rfl | hs | hs
  · exact hbare (by omega)
  · exact htight (by omega) s hs
  · exact htight' (by omega) s hs

/-! ## Scanning -/

/-- What is scanned within a bound on the number of steps is tight in front of what follows it. -/
structure ScansTight (fuel : Nat) : Prop where
  value : ∀ {cs d rest}, scan fuel cs = (d, .ok rest) →
    ∃ n, n + rest.length ≤ cs.length ∧ Tight n d
  items : ∀ {cs ds rest}, scanItems fuel cs = (ds, .ok rest) →
    ∃ n, n + rest.length ≤ cs.length ∧ TightItems n ds
  members : ∀ {cs ds rest}, scanMembers fuel cs = (ds, .ok rest) →
    ∃ n, n + rest.length ≤ cs.length ∧ TightMembers n ds

variable {fuel : Nat} {cs rest : List Char}

theorem length_le_of_skipSpace {tail : List Char} (h : skipSpace cs = tail) :
    tail.length ≤ cs.length := by
  rw [← h]
  exact List.length_dropWhile_le _ _

theorem length_lt_of_skipSpace {c : Char} {tail : List Char} (h : skipSpace cs = c :: tail) :
    tail.length < cs.length :=
  length_le_of_skipSpace h

theorem tight_nothing : Tight 2 (.array [] none) ∧ Tight 2 (.object [] none) := by
  constructor
  · exact tight_array (n := 1) fun depth vs hvs => by
      cases hvs
      exact ⟨Nat.le_refl 1, fun _ => List.forall_mem_nil _⟩
  · exact tight_object (n := 1) fun depth ms hms => by
      cases hms
      exact ⟨Nat.le_refl 1, fun _ => List.forall_mem_nil _⟩

/-- A name is as long as the value that it stands for calls for. -/
theorem scanName_tight {value : Draft} {name tail : List Char} {c : Char}
    (hcs : skipSpace cs = c :: tail) (h : scanName value name tail = (d, .ok rest))
    (hvalue : ∀ depth v, Draft.value depth value = .ok v →
      leastLength v ≤ name.length + 1 ∧ v.texts = []) :
    ∃ n, n + rest.length ≤ cs.length ∧ Tight n d := by
  obtain ⟨rfl, hlength⟩ := scanName_length h
  have hlt := length_lt_of_skipSpace hcs
  refine ⟨name.length + 1, by omega, fun depth v hv => ?_⟩
  obtain ⟨hleast, hnone⟩ := hvalue depth v hv
  rw [hnone]
  exact ⟨hleast, fun _ => List.forall_mem_nil _⟩

theorem scan_tight (ih : ScansTight fuel) (h : scan (fuel + 1) cs = (d, .ok rest)) :
    ∃ n, n + rest.length ≤ cs.length ∧ Tight n d := by
  unfold scan at h
  split at h
  next => cases h
  next tail hcs =>
    exact scanName_tight hcs h fun _ _ hv => by
      cases hv
      exact ⟨Nat.le_refl 4, rfl⟩
  next tail hcs =>
    exact scanName_tight hcs h fun _ _ hv => by
      cases hv
      exact ⟨Nat.le_refl 4, rfl⟩
  next tail hcs =>
    exact scanName_tight hcs h fun _ _ hv => by
      cases hv
      exact ⟨Nat.le_refl 5, rfl⟩
  next tail hcs =>
    have hlt := length_lt_of_skipSpace hcs
    rcases hscan : scanString tail with ⟨value, after⟩
    rw [hscan] at h
    cases h
    obtain ⟨n, hn, htight⟩ := scanString_tight hscan
    refine ⟨n, by omega, fun depth v hv => ?_⟩
    obtain ⟨s, hs, rfl⟩ := Except.map_eq_ok_iff.mp hv
    obtain ⟨hleast, hbare⟩ := htight s hs
    exact ⟨hleast, fun heq => List.forall_mem_singleton.mpr (hbare heq)⟩
  next tail hcs =>
    have hlt := length_lt_of_skipSpace hcs
    split at h
    next inner hinner =>
      have hlt' := length_lt_of_skipSpace hinner
      cases h
      exact ⟨2, by omega, tight_nothing.1⟩
    next => cases h
    next =>
      rcases hscan : scanItems fuel (skipSpace tail) with ⟨items, after⟩
      rw [hscan] at h
      cases h
      obtain ⟨n, hn, htight⟩ := ih.items hscan
      have hle' : (skipSpace tail).length ≤ tail.length := length_le_of_skipSpace rfl
      exact ⟨n + 1, by omega, tight_array htight⟩
  next tail hcs =>
    have hlt := length_lt_of_skipSpace hcs
    split at h
    next inner hinner =>
      have hlt' := length_lt_of_skipSpace hinner
      cases h
      exact ⟨2, by omega, tight_nothing.2⟩
    next => cases h
    next =>
      rcases hscan : scanMembers fuel (skipSpace tail) with ⟨members, after⟩
      rw [hscan] at h
      cases h
      obtain ⟨n, hn, htight⟩ := ih.members hscan
      have hle' : (skipSpace tail).length ≤ tail.length := length_le_of_skipSpace rfl
      exact ⟨n + 1, by omega, tight_object htight⟩
  next hcs =>
    have hle := length_le_of_skipSpace hcs
    split at h
    next =>
      rcases hscan : scanNumber _ with ⟨value, after⟩
      rw [hscan] at h
      cases h
      have hle' := length_le_of_scanNumber hscan
      refine ⟨0, by omega, fun depth v hv => ?_⟩
      obtain ⟨x, -, rfl⟩ := Except.map_eq_ok_iff.mp hv
      exact ⟨Nat.le_refl 0, fun _ => List.forall_mem_nil _⟩
    next => cases h

theorem scanItems_tight (ih : ScansTight fuel) {ds : List Draft}
    (h : scanItems (fuel + 1) cs = (ds, .ok rest)) :
    ∃ n, n + rest.length ≤ cs.length ∧ TightItems n ds := by
  unfold scanItems at h
  rcases hscan : scan fuel cs with ⟨d, after⟩
  rw [hscan] at h
  cases after with
  | error p => cases h
  | ok after =>
      obtain ⟨n, hn, htight⟩ := ih.value hscan
      dsimp only at h
      split at h
      next tail hafter =>
        have hlt := length_lt_of_skipSpace hafter
        cases h
        exact ⟨n + 1, by omega, tightItems_last htight⟩
      next tail hafter =>
        have hlt := length_lt_of_skipSpace hafter
        rcases hitems : scanItems fuel tail with ⟨items, after'⟩
        rw [hitems] at h
        cases h
        obtain ⟨n', hn', htight'⟩ := ih.items hitems
        exact ⟨n + 1 + n', by omega, tightItems_next htight htight'⟩
      next => cases h
      next => cases h

theorem scanMembers_tight (ih : ScansTight fuel) {ds : List (Except Problem String × Draft)}
    (h : scanMembers (fuel + 1) cs = (ds, .ok rest)) :
    ∃ n, n + rest.length ≤ cs.length ∧ TightMembers n ds := by
  unfold scanMembers at h
  split at h
  next => cases h
  next tail hcs =>
    have hlt := length_lt_of_skipSpace hcs
    rcases hname : scanString tail with ⟨key, after⟩
    rw [hname] at h
    cases after with
    | error p => cases h
    | ok after =>
        obtain ⟨m, hm, hkey⟩ := scanString_tight hname
        dsimp only at h
        split at h
        next => cases h
        next tail' hcolon =>
          have hlt' := length_lt_of_skipSpace hcolon
          rcases hscan : scan fuel tail' with ⟨d, after'⟩
          rw [hscan] at h
          cases after' with
          | error p => cases h
          | ok after' =>
              obtain ⟨n, hn, htight⟩ := ih.value hscan
              dsimp only at h
              split at h
              next last hend =>
                have hlt'' := length_lt_of_skipSpace hend
                cases h
                exact ⟨m + (n + 2), by omega, tightMembers_last hkey htight⟩
              next more hmore =>
                have hlt'' := length_lt_of_skipSpace hmore
                rcases hmembers : scanMembers fuel more with ⟨members, after''⟩
                rw [hmembers] at h
                cases h
                obtain ⟨n', hn', htight'⟩ := ih.members hmembers
                exact ⟨m + (n + 2) + n', by omega, tightMembers_next hkey htight htight'⟩
              next => cases h
              next => cases h
        next => cases h
  next => cases h

theorem scansTight (fuel : Nat) : ScansTight fuel := by
  induction fuel with
  | zero => exact ⟨nofun, nofun, nofun⟩
  | succ fuel ih => exact ⟨scan_tight ih, scanItems_tight ih, scanMembers_tight ih⟩

/-- A text has as many characters as its value calls for, and no more only if no string in the value
needs an escape. -/
theorem tight_parse {text : String} {v : Json} (h : parse text = .ok v) :
    leastLength v ≤ text.length ∧
      (leastLength v = text.length → ∀ s ∈ v.texts, isBareText s = true) := by
  rcases hscan : scan (text.toList.length + 1) text.toList with ⟨d, after⟩
  rw [parse, Json.read, readChars, hscan] at h
  obtain ⟨v', hv, hafter⟩ := Except.bind_eq_ok_iff.mp h
  obtain ⟨rest, hrest, hend⟩ := Except.bind_eq_ok_iff.mp hafter
  subst hrest
  split at hend
  next =>
    cases hend
    obtain ⟨n, hn, htight⟩ := (scansTight _).value hscan
    obtain ⟨hleast, hbare⟩ := htight _ v hv
    rw [String.length_toList] at hn
    exact ⟨by omega, fun heq => hbare (by omega)⟩
  next => cases hend

end Conformance.Json
