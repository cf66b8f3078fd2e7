import Conformance.Proofs.Text.Decimal
import Conformance.Proofs.Text.Split
import Conformance.Url.Host
import Mathlib.Data.List.TakeWhile

/-!
# Reading back addresses

An address of the fourth version is written as its four bytes (`bytes`), and one of the sixth as its
pieces, of which the longest run of zeros is left out (`isRun_longestZeros`). Both are read as what
they were (`ipv4?_render`, `ipv6?_render`), as long as they are within the bounds that every address
that was read is within (`ipv4?_lt`, `ipv6?_bounds`).
-/

namespace Conformance.Host

open Text

/-! ## Digits -/

theorem hexValue?_digitChar : ∀ n < 16, hexValue? (Nat.digitChar n) = some n := by decide

/-- The number that digits stand for, one after the other; none after a character that is no digit
of the base. -/
def gather (base : Nat) : Option Nat → Char → Option Nat :=
  fun n c =>
    match n, hexValue? c with
    | some n, some d => if d < base then some (n * base + d) else none
    | _, _ => none

theorem foldl_gather_toDigits {base : Nat} (hone : 1 < base) (hbase : base ≤ 16) (n : Nat) :
    (Nat.toDigits base n).foldl (gather base) (some 0) = some n := by
  induction n using Nat.strongRecOn with
  | ind n ih =>
      rcases Nat.lt_or_ge n base with hn | hn
      · rw [Nat.toDigits_of_lt_base hn]
        simp [gather, hexValue?_digitChar n (by omega), hn]
      · have hmod : n % base < base := Nat.mod_lt n (by omega)
        rw [Nat.toDigits_of_base_le hone hn, List.foldl_append,
          ih (n / base) (Nat.div_lt_self (by omega) hone)]
        simp [gather, hexValue?_digitChar (n % base) (by omega), hmod, Nat.div_add_mod']

theorem radix_decimalDigits (n : Nat) : radix (decimalDigits n) = (10, decimalDigits n) := by
  unfold radix
  by_cases hn : n = 0
  · subst hn
    rfl
  have hhead := head?_decimalDigits hn
  split
  next heq => simp [heq] at hhead
  next heq => simp [heq] at hhead
  next heq => simp [heq] at hhead
  next => rfl

theorem ipv4Number?_decimalDigits (n : Nat) : ipv4Number? (decimalDigits n) = some n := by
  have hne : (decimalDigits n).isEmpty = false := by
    rw [List.isEmpty_eq_false_iff]
    exact Nat.toDigits_ne_nil
  rw [ipv4Number?, hne, radix_decimalDigits]
  exact foldl_gather_toDigits (by decide) (by decide) n

/-! ## Addresses of the fourth version -/

/-- The four bytes of an address. -/
def bytes (address : Nat) : List Nat := [3, 2, 1, 0].map fun i => address / Nat.pow 256 i % 256

theorem toList_render_ipv4 (address : Nat) :
    (render (.ipv4 address)).toList = ['.'].intercalate ((bytes address).map decimalDigits) := by
  rw [render, String.toList_intercalate, bytes, List.map_map, List.map_map]
  simp only [Function.comp_def, decimal, String.toList_ofList]
  rfl

theorem splitOn_render_ipv4 (address : Nat) :
    splitOn '.' (render (.ipv4 address)).toList = (bytes address).map decimalDigits := by
  rw [toList_render_ipv4]
  refine splitOn_intercalate ?_ (by simp [bytes])
  intro part hpart hdot
  obtain ⟨n, -, rfl⟩ := List.mem_map.mp hpart
  exact absurd (isDigit_of_mem_decimalDigits hdot) (by decide)

theorem endsInNumber_render_ipv4 (address : Nat) :
    endsInNumber (render (.ipv4 address)).toList = true := by
  have hne : decimalDigits (address % 256) ≠ [] := Nat.toDigits_ne_nil
  have hdigits : (decimalDigits (address % 256)).all isDigit = true :=
    List.all_eq_true.mpr fun c => isDigit_of_mem_decimalDigits
  obtain ⟨c, cs, hcs⟩ := List.exists_cons_of_ne_nil hne
  rw [hcs] at hdigits
  unfold endsInNumber
  rw [splitOn_render_ipv4]
  simp [bytes, hcs, List.all_cons ▸ hdigits]

theorem mapM_ipv4Number? (ns : List Nat) : (ns.map decimalDigits).mapM ipv4Number? = some ns := by
  induction ns with
  | nil => rfl
  | cons n ns ih => simp [ipv4Number?_decimalDigits, ih]

theorem ipv4OfNumbers?_bytes {address : Nat} (h : address < 2 ^ 32) :
    ipv4OfNumbers? (bytes address) = some address := by
  simp [ipv4OfNumbers?, bytes, List.zipIdx]
  omega

theorem ipv4?_render {address : Nat} (h : address < 2 ^ 32) :
    ipv4? (render (.ipv4 address)).toList = some address := by
  have hne : decimalDigits (address % 256) ≠ [] := Nat.toDigits_ne_nil
  have hlast : (((bytes address).map decimalDigits).getLast? == some []) = false := by
    simp [bytes, hne]
  unfold ipv4?
  rw [splitOn_render_ipv4]
  simp only [hlast, Bool.false_eq_true, if_false, mapM_ipv4Number?, ipv4OfNumbers?_bytes h]

/-- Bytes put in places from the `i`-th on add less than what the places hold. -/
theorem foldl_places_le {ds : List Nat} (h : ∀ d ∈ ds, d ≤ 255) {i : Nat} (n : Nat)
    (hplaces : i + ds.length ≤ 4) :
    (ds.zipIdx i).foldl (fun n (d, i) => n + d * Nat.pow 256 (3 - i)) n +
      Nat.pow 256 (4 - (i + ds.length)) ≤ n + Nat.pow 256 (4 - i) := by
  induction ds generalizing i n with
  | nil => exact Nat.le_refl _
  | cons d ds ih =>
      rw [List.length_cons] at hplaces
      have hd : d ≤ 255 := h d List.mem_cons_self
      have hrest := ih (fun e he => h e (List.mem_cons_of_mem _ he)) (n + d * Nat.pow 256 (3 - i))
        (show i + 1 + ds.length ≤ 4 by omega)
      have hplace : Nat.pow 256 (4 - i) = Nat.pow 256 (3 - i) * 256 := by
        rw [show 4 - i = 3 - i + 1 by omega]
        rfl
      have hmul := Nat.mul_le_mul_right (Nat.pow 256 (3 - i)) hd
      rw [show 4 - (i + 1) = 3 - i by omega, show i + 1 + ds.length = i + (d :: ds).length by
        simp; omega] at hrest
      rw [List.zipIdx_cons, List.foldl_cons]
      dsimp only at hrest ⊢
      omega

theorem ipv4OfNumbers?_lt {ns : List Nat} {address : Nat} (h : ipv4OfNumbers? ns = some address) :
    address < 2 ^ 32 := by
  unfold ipv4OfNumbers? at h
  split at h
  · cases h
  next last others heq =>
    split at h
    · cases h
    next hlen =>
      split at h
      · cases h
      next hany =>
        split at h
        · cases h
        next hlast =>
          have hothers : ∀ d ∈ others.reverse, d ≤ 255 := by simpa using hany
          have hle := foldl_places_le hothers last (show 0 + others.reverse.length ≤ 4 by
            rw [List.length_reverse]; omega)
          rw [Nat.zero_add, List.length_reverse] at hle
          rw [Option.some.inj h] at hle
          have hall : Nat.pow 256 (4 - 0) = 2 ^ 32 := by decide
          omega

theorem ipv4?_lt {name : List Char} {address : Nat} (h : ipv4? name = some address) :
    address < 2 ^ 32 := by
  unfold ipv4? at h
  dsimp only at h
  generalize (splitOn '.' name) = parts at h
  split at h
  next => cases h
  next => exact ipv4OfNumbers?_lt h

/-! ## Pieces -/

/-- Whether `c` stands in an address of the sixth version. -/
def isInner (c : Char) : Bool := (hexValue? c).isSome || c == ':'

theorem isSome_hexValue?_of_mem {n : Nat} {c : Char} (h : c ∈ hexDigits n) :
    (hexValue? c).isSome = true := by
  unfold hexDigits at h
  induction n using Nat.strongRecOn with
  | ind n ih =>
      rcases Nat.lt_or_ge n 16 with hn | hn
      · rw [Nat.toDigits_of_lt_base hn, List.mem_singleton] at h
        rw [h, hexValue?_digitChar n hn, Option.isSome_some]
      · rw [Nat.toDigits_of_base_le (by decide) hn, List.mem_append, List.mem_singleton] at h
        rcases h with h | rfl
        · exact ih (n / 16) (by omega) h
        · rw [hexValue?_digitChar _ (Nat.mod_lt n (by decide)), Option.isSome_some]

theorem isInner_of_mem_hexPieces {ps : List Nat} {c : Char} (h : c ∈ hexPieces ps) :
    isInner c = true := by
  rcases mem_intercalate h with rfl | ⟨part, hpart, hc⟩
  · decide
  · obtain ⟨n, -, rfl⟩ := List.mem_map.mp hpart
    rw [isInner, isSome_hexValue?_of_mem hc, Bool.true_or]

theorem go_hexDigits (n : Nat) {count left : Nat} (rest : List Char)
    (hleft : (hexDigits n).length ≤ left) :
    piece.go 0 count left (hexDigits n ++ rest) =
      piece.go n (count + (hexDigits n).length) (left - (hexDigits n).length) rest := by
  unfold hexDigits at hleft ⊢
  induction n using Nat.strongRecOn generalizing count left rest with
  | ind n ih =>
      rcases Nat.lt_or_ge n 16 with hn | hn
      · rw [Nat.toDigits_of_lt_base hn] at hleft ⊢
        obtain ⟨left, rfl⟩ := Nat.exists_eq_add_of_le' hleft
        simp [piece.go, hexValue?_digitChar n hn]
      · rw [Nat.toDigits_of_base_le (by decide) hn, List.length_append, List.length_singleton]
          at hleft ⊢
        obtain ⟨left, rfl⟩ := Nat.exists_eq_add_of_le' hleft
        -- All digits but the last one leave room for it.
        have hroom : left + ((Nat.toDigits 16 (n / 16)).length + 1) -
            (Nat.toDigits 16 (n / 16)).length = left + 1 := by omega
        rw [List.append_assoc, ih (n / 16) (by omega) _ (by omega), hroom]
        simp [piece.go, hexValue?_digitChar _ (Nat.mod_lt n (by decide)), Nat.div_add_mod',
          Nat.add_assoc]

/-- A piece is read off the front of a text that does not go on with a digit. -/
theorem piece_hexDigits {n : Nat} (h : n < 65536) {rest : List Char}
    (hrest : ∀ c ∈ rest.head?, hexValue? c = none) :
    piece 4 (hexDigits n ++ rest) = (n, (hexDigits n).length, rest) := by
  have hlen : (hexDigits n).length ≤ 4 := by
    rw [hexDigits, Nat.length_toDigits_le_iff (by decide) (by decide)]
    exact h
  rw [piece, go_hexDigits n rest hlen]
  cases rest with
  | nil => cases 4 - (hexDigits n).length <;> simp [piece.go]
  | cons c rest =>
      have hc : hexValue? c = none := hrest c rfl
      cases 4 - (hexDigits n).length <;> simp [piece.go, hc]

theorem hexPieces_singleton (p : Nat) : hexPieces [p] = hexDigits p := by
  simp [hexPieces]

theorem hexPieces_cons (p q : Nat) (ps : List Nat) :
    hexPieces (p :: q :: ps) = hexDigits p ++ ':' :: hexPieces (q :: ps) := by
  simp [hexPieces]

theorem hexDigits_eq_cons (n : Nat) : ∃ c cs, hexDigits n = c :: cs ∧ c ≠ ':' := by
  obtain ⟨c, cs, hcs⟩ :=
    List.exists_cons_of_ne_nil (show hexDigits n ≠ [] from Nat.toDigits_ne_nil)
  refine ⟨c, cs, hcs, ?_⟩
  rintro rfl
  have hcolon : ':' ∈ hexDigits n := hcs ▸ List.mem_cons_self
  exact absurd (isSome_hexValue?_of_mem hcolon) (by decide)

theorem hexPieces_eq_cons {ps : List Nat} (h : ps ≠ []) :
    ∃ c cs, hexPieces ps = c :: cs ∧ c ≠ ':' := by
  match ps with
  | [p] =>
      rw [hexPieces_singleton]
      exact hexDigits_eq_cons p
  | p :: q :: ps =>
      obtain ⟨c, cs, hcs, hcolon⟩ := hexDigits_eq_cons p
      exact ⟨c, cs ++ ':' :: hexPieces (q :: ps), by rw [hexPieces_cons, hcs]; rfl, hcolon⟩

/-! ## Reading pieces -/

/-- The room that pieces and a gap take. -/
def size (done : List Nat) (gap : Option Nat) : Nat :=
  done.length + if gap.isSome then 1 else 0

@[simp] theorem size_cons (p : Nat) (done : List Nat) (gap : Option Nat) :
    size (p :: done) gap = size done gap + 1 := by
  rw [size, size, List.length_cons]
  omega

@[simp] theorem size_none (done : List Nat) : size done none = done.length := rfl

@[simp] theorem size_some (done : List Nat) (k : Nat) : size done (some k) = done.length + 1 := rfl

section Reading

variable {fuel : Nat} {done : List Nat} {gap : Option Nat} {p : Nat} {ps : List Nat}

theorem pieces?_piece (hp : p < 65536) (hroom : size done gap < 8) {rest : List Char}
    (hrest : rest ≠ []) :
    pieces? (fuel + 1) (hexDigits p ++ ':' :: rest) done gap =
      pieces? fuel rest (p :: done) gap := by
  obtain ⟨c, cs, hcs, hcolon⟩ := hexDigits_eq_cons p
  have hpiece := @piece_hexDigits p hp (':' :: rest) (by rintro c ⟨⟩; decide)
  rw [hcs, List.cons_append] at hpiece ⊢
  rw [pieces?.eq_def]
  simp only [show ¬8 ≤ done.length + _ from Nat.not_le.mpr hroom, if_false]
  split
  next => simp_all
  next => simp [hpiece, hrest]

theorem pieces?_last (hp : p < 65536) (hroom : size done gap < 8) :
    pieces? (fuel + 1) (hexDigits p) done gap = some (p :: done, gap) := by
  obtain ⟨c, cs, hcs, hcolon⟩ := hexDigits_eq_cons p
  have hpiece := @piece_hexDigits p hp [] (by simp)
  rw [List.append_nil, hcs] at hpiece
  rw [hcs, pieces?.eq_def]
  simp only [show ¬8 ≤ done.length + _ from Nat.not_le.mpr hroom, if_false]
  split
  next => simp_all
  next => simp [hpiece]

theorem pieces?_gap (hroom : done.length < 8) (rest : List Char) :
    pieces? (fuel + 1) (':' :: rest) done none = pieces? fuel rest done (some done.length) := by
  rw [pieces?]
  simp [Nat.not_le.mpr hroom]

/-- Pieces are read as what they were written for. -/
theorem pieces?_hexPieces (h : ∀ p ∈ ps, p < 65536) (hfuel : ps.length < fuel)
    (hroom : size done gap + ps.length ≤ 8) :
    pieces? fuel (hexPieces ps) done gap = some (ps.reverse ++ done, gap) := by
  induction ps generalizing fuel done with
  | nil =>
      obtain ⟨fuel, rfl⟩ := Nat.exists_eq_add_of_le' hfuel
      rfl
  | cons p ps ih =>
      rw [List.length_cons] at hfuel hroom
      obtain ⟨fuel, rfl⟩ : ∃ fuel', fuel = fuel' + 1 := ⟨fuel - 1, by omega⟩
      obtain ⟨hp, hps⟩ := List.forall_mem_cons.mp h
      cases ps with
      | nil =>
          rw [hexPieces_singleton, pieces?_last hp (by omega)]
          rfl
      | cons q ps =>
          obtain ⟨c, cs, hcs, -⟩ := hexPieces_eq_cons (List.cons_ne_nil q ps)
          rw [hexPieces_cons, pieces?_piece hp (by omega) (by simp [hcs]),
            ih hps (by omega) (by rw [size_cons]; omega), List.reverse_cons (a := p),
            List.append_assoc, List.singleton_append]

/-- Pieces in front of a gap are read as what they were written for. -/
theorem pieces?_hexPieces_gap (h : ∀ p ∈ ps, p < 65536) (hne : ps ≠ [])
    (hroom : done.length + ps.length < 8) (rest : List Char) :
    pieces? (fuel + ps.length + 1) (hexPieces ps ++ ':' :: ':' :: rest) done none =
      pieces? fuel rest (ps.reverse ++ done) (some (done.length + ps.length)) := by
  induction ps generalizing done with
  | nil => exact absurd rfl hne
  | cons p ps ih =>
      rw [List.length_cons] at hroom
      obtain ⟨hp, hps⟩ := List.forall_mem_cons.mp h
      have hsize : size done none < 8 := by rw [size_none]; omega
      rw [List.length_cons, ← Nat.add_assoc fuel]
      cases ps with
      | nil =>
          rw [hexPieces_singleton, pieces?_piece hp hsize (List.cons_ne_nil _ _)]
          exact pieces?_gap (by simpa using hroom) rest
      | cons q ps =>
          rw [hexPieces_cons, List.append_assoc, List.cons_append,
            pieces?_piece hp hsize (by simp),
            ih hps (List.cons_ne_nil q ps) (by rw [List.length_cons]; omega),
            List.reverse_cons (a := p), List.append_assoc, List.singleton_append, List.length_cons,
            Nat.add_assoc, Nat.add_comm 1]

end Reading

/-! ## Runs of zeros -/

/-- A run of zeros: all pieces are those in front of it, its zeros and those behind it. -/
def IsRun (pieces : List Nat) (run : Nat × Nat) : Prop :=
  pieces.take run.1 ++ List.replicate run.2 0 ++ pieces.drop (run.1 + run.2) = pieces

theorem isRun_takeWhile (pieces : List Nat) (i : Nat) :
    IsRun pieces (i, ((pieces.drop i).takeWhile (· == 0)).length) := by
  have hzeros : (pieces.drop i).takeWhile (· == 0) =
      List.replicate ((pieces.drop i).takeWhile (· == 0)).length 0 := by
    rw [List.eq_replicate_iff]
    exact ⟨rfl, fun p hp => by simpa using List.mem_takeWhile_imp hp⟩
  have hsplit := List.takeWhile_append_dropWhile (p := (· == 0)) (l := pieces.drop i)
  have hrest := congrArg (List.drop ((pieces.drop i).takeWhile (· == 0)).length) hsplit
  rw [List.drop_left] at hrest
  rw [IsRun, List.append_assoc, ← hzeros, ← List.drop_drop, ← hrest, hsplit,
    List.take_append_drop]

theorem foldl_longer {P : Nat × Nat → Prop} {runs : List (Nat × Nat)} (h : ∀ r ∈ runs, P r)
    {best : Nat × Nat} (hbest : P best) :
    P (runs.foldl (fun best r => if best.2 < r.2 then r else best) best) := by
  induction runs generalizing best with
  | nil => exact hbest
  | cons r runs ih =>
      refine ih (fun r hr => h r (List.mem_cons_of_mem _ hr)) ?_
      show P (if best.2 < r.2 then r else best)
      split
      next => exact h r List.mem_cons_self
      next => exact hbest

theorem isRun_longestZeros (pieces : List Nat) : IsRun pieces (longestZeros pieces) := by
  refine foldl_longer (fun r hr => ?_) (by simp [IsRun])
  obtain ⟨i, -, rfl⟩ := List.mem_map.mp hr
  exact isRun_takeWhile pieces i

/-! ## Addresses of the sixth version -/

/-- The pieces of an address between brackets, last first, and where its gap stands. -/
def gathered? (cs : List Char) : Option (List Nat × Option Nat) :=
  match cs with
  | ':' :: ':' :: rest => pieces? 12 rest [] (some 0)
  | ':' :: _ => none
  | [] => none
  | [_] => none
  | _ => pieces? 12 cs [] none

/-- The address of pieces whose gap is filled with zeros. -/
def filled? (found : List Nat × Option Nat) : Option (List Nat) :=
  let pieces := found.1.reverse
  match found.2 with
  | some k => some (pieces.take k ++ List.replicate (8 - pieces.length) 0 ++ pieces.drop k)
  | none => if pieces.length = 8 then some pieces else none

theorem ipv6?_eq (cs : List Char) : ipv6? cs = (gathered? cs).bind filled? := by
  unfold gathered?
  split
  next rest =>
    rw [ipv6?]
    cases pieces? 12 rest [] (some 0) <;> rfl
  next hgap =>
    rw [ipv6?]
    · rfl
    · exact hgap
  next => rw [ipv6?]; rfl
  next hcolon =>
    rw [ipv6?]
    · rfl
    · exact hcolon
  next hgap hcolon hnil hone =>
    rw [ipv6?]
    · cases pieces? 12 cs [] none <;> rfl
    all_goals assumption

theorem gathered?_cons {c d : Char} (h : c ≠ ':') (cs : List Char) :
    gathered? (c :: d :: cs) = pieces? 12 (c :: d :: cs) [] none := by
  unfold gathered?
  split <;> simp_all

theorem ipv6?_hexPieces {pieces : List Nat} (h : ∀ p ∈ pieces, p < 65536)
    (hlen : pieces.length = 8) : ipv6? (hexPieces pieces) = some pieces := by
  obtain ⟨c, d, cs, hcs, hcolon⟩ : ∃ c d cs, hexPieces pieces = c :: d :: cs ∧ c ≠ ':' := by
    match pieces with
    | p :: q :: ps =>
        obtain ⟨c, cs, hcs, hcolon⟩ := hexDigits_eq_cons p
        rw [hexPieces_cons, hcs]
        cases cs with
        | nil => exact ⟨c, ':', _, rfl, hcolon⟩
        | cons d cs => exact ⟨c, d, _, rfl, hcolon⟩
  have hgathered : gathered? (hexPieces pieces) = some (pieces.reverse, none) := by
    rw [hcs, gathered?_cons hcolon, ← hcs, pieces?_hexPieces h (by omega) (by simp [hlen]),
      List.append_nil]
  rw [ipv6?_eq, hgathered]
  simp [filled?, hlen]

theorem ipv6?_gap {front back : List Nat} (hfront : ∀ p ∈ front, p < 65536)
    (hback : ∀ p ∈ back, p < 65536) (hlen : front.length + back.length < 8) :
    ipv6? (hexPieces front ++ ':' :: ':' :: hexPieces back) =
      some (front ++ List.replicate (8 - (front.length + back.length)) 0 ++ back) := by
  have hgathered : gathered? (hexPieces front ++ ':' :: ':' :: hexPieces back) =
      some (back.reverse ++ front.reverse, some front.length) := by
    by_cases hne : front = []
    · subst hne
      rw [List.length_nil] at hlen
      exact pieces?_hexPieces hback (by omega) (by simp; omega)
    · obtain ⟨c, cs, hcs, hcolon⟩ := hexPieces_eq_cons hne
      obtain ⟨d, more, hmore⟩ := List.exists_cons_of_ne_nil
        (show cs ++ ':' :: ':' :: hexPieces back ≠ [] by simp)
      have hfuel : 12 = (11 - front.length) + front.length + 1 := by omega
      rw [hcs, List.cons_append, hmore, gathered?_cons hcolon, ← hmore, ← List.cons_append, ← hcs,
        hfuel, pieces?_hexPieces_gap hfront hne (by simpa using by omega),
        pieces?_hexPieces hback (by omega) (by simp; omega)]
      simp
  rw [ipv6?_eq, hgathered]
  simp [filled?]

/-- An address of the sixth version is read as what it was written for. -/
theorem ipv6?_render {pieces : List Nat} (h : ∀ p ∈ pieces, p < 65536) (hlen : pieces.length = 8) :
    ∃ body, (render (.ipv6 pieces)).toList = '[' :: body ++ [']'] ∧
      ipv6? body = some pieces ∧ ∀ c ∈ body, isInner c = true := by
  have hrun := isRun_longestZeros pieces
  rcases hzeros : longestZeros pieces with ⟨start, count⟩
  rw [hzeros, IsRun] at hrun
  rw [render, hzeros]
  dsimp only at hrun ⊢
  split
  next =>
    exact ⟨hexPieces pieces, by simp, ipv6?_hexPieces h hlen,
      fun c hc => isInner_of_mem_hexPieces hc⟩
  next hcount =>
    have hsum := congrArg List.length hrun
    rw [List.length_append, List.length_append, List.length_replicate, hlen] at hsum
    have hgap := ipv6?_gap (fun p hp => h p (List.mem_of_mem_take hp))
      (fun p hp => h p (List.mem_of_mem_drop hp)) (show (pieces.take start).length +
        (pieces.drop (start + count)).length < 8 by omega)
    have hcount : 8 - ((pieces.take start).length + (pieces.drop (start + count)).length) = count :=
      by omega
    rw [hcount, hrun] at hgap
    refine ⟨_, by simp, hgap, fun c hc => ?_⟩
    simp only [List.mem_append, List.mem_cons] at hc
    rcases hc with hc | rfl | rfl | hc
    · exact isInner_of_mem_hexPieces hc
    · decide
    · decide
    · exact isInner_of_mem_hexPieces hc

/-! ## Bounds of addresses that were read -/

theorem hexValue?_lt {c : Char} {d : Nat} (h : hexValue? c = some d) : d < 16 := by
  unfold hexValue? at h
  simp only [isDigit, digitValue, Bool.and_eq_true, decide_eq_true_eq] at h
  split at h
  next hc =>
    have hle : c.toNat ≤ '9'.toNat := hc.2
    rw [← Option.some.inj h]
    exact Nat.lt_of_le_of_lt (Nat.sub_le_sub_right hle _) (by decide)
  next =>
    split at h
    next hc =>
      have hle : c.toNat ≤ 'f'.toNat := hc.2
      rw [← Option.some.inj h]
      exact Nat.lt_of_le_of_lt (Nat.add_le_add_right (Nat.sub_le_sub_right hle _) _) (by decide)
    next =>
      split at h
      next hc =>
        have hle : c.toNat ≤ 'F'.toNat := hc.2
        rw [← Option.some.inj h]
        exact Nat.lt_of_le_of_lt (Nat.add_le_add_right (Nat.sub_le_sub_right hle _) _)
          (by decide)
      next => cases h

theorem go_lt {value count left bound : Nat} {cs : List Char} (h : value < bound) :
    (piece.go value count left cs).1 < bound * 16 ^ left := by
  induction left generalizing value count cs bound with
  | zero => simpa [piece.go] using h
  | succ left ih =>
      have hstay : value < bound * 16 ^ (left + 1) :=
        Nat.lt_of_lt_of_le h (Nat.le_mul_of_pos_right bound (Nat.pow_pos (by decide)))
      cases cs with
      | nil => exact hstay
      | cons c rest =>
          rw [piece.go]
          split
          next d hd =>
            have hnext := @ih (value * 16 + d) (count + 1) (bound * 16) rest
              (by have := hexValue?_lt hd; omega)
            rwa [Nat.pow_succ', ← Nat.mul_assoc]
          next => exact hstay

theorem piece_lt (cs : List Char) : (piece 4 cs).1 < 65536 :=
  Nat.lt_of_lt_of_eq (@go_lt 0 0 4 1 cs (by decide)) (by decide)

theorem mem_of_mapM {α β : Type} {f : α → Option β} {as : List α} {bs : List β}
    (h : as.mapM f = some bs) : ∀ b ∈ bs, ∃ a ∈ as, f a = some b := by
  induction as generalizing bs with
  | nil => simp_all
  | cons a as ih =>
      simp only [List.mapM_cons, Option.bind_eq_bind, Option.bind_eq_some_iff] at h
      obtain ⟨b, hb, rest, hrest, hbs⟩ := h
      obtain rfl := Option.some.inj hbs
      intro c hc
      rcases List.mem_cons.mp hc with rfl | hc
      · exact ⟨a, List.mem_cons_self, hb⟩
      · obtain ⟨a', ha', hc'⟩ := ih hrest c hc
        exact ⟨a', List.mem_cons_of_mem _ ha', hc'⟩

theorem dottedPieces?_lt {cs : List Char} {ps : List Nat} (h : dottedPieces? cs = some ps) :
    ps.length = 2 ∧ ∀ p ∈ ps, p < 65536 := by
  unfold dottedPieces? at h
  dsimp only at h
  split at h
  next a b c d hnumbers =>
    have hle : ∀ n ∈ [a, b, c, d], n ≤ 255 := by
      intro n hn
      obtain ⟨part, -, hpart⟩ := mem_of_mapM hnumbers n hn
      split at hpart
      next =>
        split at hpart
        next hbound =>
          rw [← Option.some.inj hpart]
          simp only [Bool.and_eq_true, decide_eq_true_eq] at hbound
          exact hbound.1
        next => cases hpart
      next => cases hpart
    simp only [List.forall_mem_cons] at hle
    obtain ⟨ha, hb, hc, hd, -⟩ := hle
    rw [← Option.some.inj h]
    refine ⟨rfl, ?_⟩
    simp only [List.forall_mem_cons]
    exact ⟨by omega, by omega, by simp⟩
  next => cases h

/-- What one step of reading does: pieces are added, at most as many as there is room for, and
reading ends or goes on. -/
theorem pieces?_step {fuel : Nat} {cs : List Char} {done : List Nat} {gap : Option Nat}
    {found : List Nat × Option Nat} (h : pieces? (fuel + 1) cs done gap = some found)
    (hdone : done.length ≤ 8) :
    ∃ more : List Nat, (more ++ done).length ≤ 8 ∧ (∀ p ∈ more, p < 65536) ∧
      (found.1 = more ++ done ∨
        ∃ rest gap', pieces? fuel rest (more ++ done) gap' = some found) := by
  cases cs with
  | nil => exact ⟨[], hdone, by simp, .inl (by rw [← Option.some.inj h]; rfl)⟩
  | cons c cs =>
      have hvalue := piece_lt (c :: cs)
      rw [pieces?.eq_def] at h
      dsimp only at h
      generalize hsize : (done.length + if gap.isSome = true then 1 else 0) = size at h
      have hle : done.length ≤ size := hsize ▸ Nat.le_add_right _ _
      split at h
      next => cases h
      next hroom =>
        have hmore : ([(piece 4 (c :: cs)).1] ++ done).length ≤ 8 := by
          rw [List.length_append, List.length_singleton]
          omega
        split at h
        -- A colon is the gap.
        next =>
          split at h
          next => cases h
          next => exact ⟨[], hdone, by simp, .inr ⟨_, _, h⟩⟩
        -- All else starts with a piece: the last one, one of an address of four bytes, or another.
        next =>
          split at h
          next =>
            exact ⟨[_], hmore, by simpa using hvalue, .inl (by rw [← Option.some.inj h]; rfl)⟩
          next =>
            split at h
            next => cases h
            next htwo =>
              simp only [Bool.or_eq_true, decide_eq_true_eq, not_or, Nat.not_lt] at htwo
              obtain ⟨ps, hps, rfl⟩ := Option.map_eq_some_iff.mp h
              obtain ⟨hlen, hlt⟩ := dottedPieces?_lt hps
              refine ⟨ps.reverse, ?_, fun p hp => hlt p (List.mem_reverse.mp hp), .inl rfl⟩
              rw [List.length_append, List.length_reverse]
              omega
          next =>
            split at h
            next => cases h
            next => exact ⟨[_], hmore, by simpa using hvalue, .inr ⟨_, _, h⟩⟩
          next => cases h

theorem pieces?_bounds {fuel : Nat} {cs : List Char} {done : List Nat} {gap : Option Nat}
    {found : List Nat × Option Nat} (h : pieces? fuel cs done gap = some found)
    (hdone : done.length ≤ 8) (hlt : ∀ p ∈ done, p < 65536) :
    found.1.length ≤ 8 ∧ ∀ p ∈ found.1, p < 65536 := by
  induction fuel generalizing cs done gap with
  | zero => cases h
  | succ fuel ih =>
      obtain ⟨more, hlen, hmore, hend⟩ := pieces?_step h hdone
      have hall : ∀ p ∈ more ++ done, p < 65536 := by
        intro p hp
        rcases List.mem_append.mp hp with hp | hp
        · exact hmore p hp
        · exact hlt p hp
      rcases hend with heq | ⟨rest, gap', hrest⟩
      · rw [heq]
        exact ⟨hlen, hall⟩
      · exact ih hrest hlen hall

theorem gathered?_bounds {cs : List Char} {found : List Nat × Option Nat}
    (h : gathered? cs = some found) : found.1.length ≤ 8 ∧ ∀ p ∈ found.1, p < 65536 := by
  unfold gathered? at h
  split at h
  next => exact pieces?_bounds h (by simp) (by simp)
  next => cases h
  next => cases h
  next => cases h
  next => exact pieces?_bounds h (by simp) (by simp)

theorem filled?_bounds {found : List Nat × Option Nat} {pieces : List Nat}
    (h : filled? found = some pieces) (hlen : found.1.length ≤ 8)
    (hlt : ∀ p ∈ found.1, p < 65536) : pieces.length = 8 ∧ ∀ p ∈ pieces, p < 65536 := by
  have hrev : ∀ p ∈ found.1.reverse, p < 65536 := fun p hp => hlt p (List.mem_reverse.mp hp)
  unfold filled? at h
  dsimp only at h
  split at h
  next k hk =>
    rw [← Option.some.inj h]
    refine ⟨by simp; omega, fun p hp => ?_⟩
    rcases List.mem_append.mp hp with hp | hback
    · rcases List.mem_append.mp hp with hfront | hzero
      · exact hrev p (List.mem_of_mem_take hfront)
      · rw [List.eq_of_mem_replicate hzero]
        decide
    · exact hrev p (List.mem_of_mem_drop hback)
  next =>
    split at h
    next hall =>
      rw [← Option.some.inj h]
      exact ⟨hall, hrev⟩
    next => cases h

theorem ipv6?_bounds {cs : List Char} {pieces : List Nat} (h : ipv6? cs = some pieces) :
    pieces.length = 8 ∧ ∀ p ∈ pieces, p < 65536 := by
  rw [ipv6?_eq, Option.bind_eq_some_iff] at h
  obtain ⟨found, hgathered, hfilled⟩ := h
  obtain ⟨hlen, hlt⟩ := gathered?_bounds hgathered
  exact filled?_bounds hfilled hlen hlt

end Conformance.Host
