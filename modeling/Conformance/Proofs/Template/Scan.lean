import Conformance.Proofs.Template.Tokens
import Conformance.Template.Scan

/-!
# Templates by their bytes

Reading a template byte by byte comes to what cutting it into pieces comes to. The bytes of dollar
signs and of characters of names stand for nothing else (`encode_cases`), so an index that stops at
one of them stands between two characters, and every slice that is taken is a text
(`Ahead.slice`). Scanning finds the variables among the pieces (`Ahead.scan`), and copying slices
expands the pieces (`Ahead.splice`). `expand_concat` says so of whole templates, and how the expansion
of two texts behind one another comes of the expansions of each.
-/

namespace Conformance.Template

/-! ## Bytes of characters -/

/-- The number of bytes of a list of characters. -/
def width : List Char → Nat
  | [] => 0
  | c :: cs => c.utf8Size + width cs

@[simp] theorem width_nil : width [] = 0 := rfl

@[simp] theorem width_cons (c : Char) (cs : List Char) :
    width (c :: cs) = c.utf8Size + width cs := rfl

@[simp] theorem width_append (cs ds : List Char) : width (cs ++ ds) = width cs + width ds := by
  induction cs with
  | nil => simp
  | cons c rest ih => simp [ih, Nat.add_assoc]

theorem size_utf8Encode (cs : List Char) : cs.utf8Encode.size = width cs := by
  induction cs with
  | nil => rfl
  | cons c rest ih =>
      rw [List.utf8Encode_cons, ByteArray.size_append, ih]
      simp [List.utf8Encode]

theorem toNat_of_isNameChar {c : Char} (h : isNameChar c = true) : c.toNat < 128 := by
  simp only [isNameChar, Bool.or_eq_true, Bool.and_eq_true, decide_eq_true_eq, beq_iff_eq] at h
  rcases h with (((⟨-, h⟩ | ⟨-, h⟩) | ⟨-, h⟩) | rfl) | rfl
  · exact Nat.lt_of_le_of_lt (show c.toNat ≤ 'z'.toNat from h) (by decide)
  · exact Nat.lt_of_le_of_lt (show c.toNat ≤ 'Z'.toNat from h) (by decide)
  · exact Nat.lt_of_le_of_lt (show c.toNat ≤ '9'.toNat from h) (by decide)
  · decide
  · decide

theorem toNat_of_isNameByte {b : UInt8} (h : isNameByte b = true) : b.toNat < 128 := by
  simp only [isNameByte, Bool.or_eq_true, Bool.and_eq_true, decide_eq_true_eq, beq_iff_eq] at h
  rcases h with (((⟨-, h⟩ | ⟨-, h⟩) | ⟨-, h⟩) | rfl) | rfl
  · exact Nat.lt_of_le_of_lt (show b.toNat ≤ 'z'.toUInt8.toNat from h) (by decide)
  · exact Nat.lt_of_le_of_lt (show b.toNat ≤ 'Z'.toUInt8.toNat from h) (by decide)
  · exact Nat.lt_of_le_of_lt (show b.toNat ≤ '9'.toUInt8.toNat from h) (by decide)
  · decide
  · decide

/-- Below 128, a byte means what the character with its number means. -/
theorem byte_eq_char : ∀ n < 128, isNameByte (UInt8.ofNat n) = isNameChar (Char.ofNat n) ∧
    (UInt8.ofNat n = dollarByte ↔ Char.ofNat n = '$') := by
  decide

/-- A character is one byte that means the same, or several bytes that mean nothing. -/
theorem encode_cases (c : Char) :
    (∃ b, String.utf8EncodeChar c = [b] ∧ isNameByte b = isNameChar c ∧
        (b = dollarByte ↔ c = '$')) ∨
      isNameChar c = false ∧ c ≠ '$' ∧
        ∀ b ∈ String.utf8EncodeChar c, isNameByte b = false ∧ b ≠ dollarByte := by
  by_cases hc : c.toNat < 128
  · left
    have hle : c.val.toNat ≤ 127 := Nat.le_of_lt_succ hc
    refine ⟨UInt8.ofNat c.toNat, ?_, ?_⟩
    · simp only [String.utf8EncodeChar, hle, if_true]
      rfl
    · simpa using byte_eq_char c.toNat hc
  · right
    refine ⟨?_, ?_, ?_⟩
    · rw [← Bool.not_eq_true]
      intro h
      exact hc (toNat_of_isNameChar h)
    · rintro rfl
      apply hc
      decide
    · intro b hb
      have hlarge : 128 ≤ b.toNat := by
        have hgt : ¬ c.val.toNat ≤ 127 := by
          intro h
          exact hc (Nat.lt_succ_of_le h)
        simp only [String.utf8EncodeChar, hgt, if_false] at hb
        split_ifs at hb <;> simp only [List.mem_cons, List.not_mem_nil, or_false] at hb
        · rcases hb with rfl | rfl <;> rw [UInt8.toNat_ofNat'] <;> omega
        · rcases hb with rfl | rfl | rfl <;> rw [UInt8.toNat_ofNat'] <;> omega
        · rcases hb with rfl | rfl | rfl | rfl <;> rw [UInt8.toNat_ofNat'] <;> omega
      constructor
      · rw [← Bool.not_eq_true]
        intro h
        exact absurd (toNat_of_isNameByte h) (Nat.not_lt.mpr hlarge)
      · rintro rfl
        revert hlarge
        decide

/-! ## Indices -/

/-- An index of a text stands between two characters, and these are the ones behind it. -/
def Ahead (s : String) (i : Nat) (cs : List Char) : Prop :=
  ∃ front, s.toList = front ++ cs ∧ i = width front

variable {s : String} {i : Nat}

theorem ahead_start (s : String) : Ahead s 0 s.toList := ⟨[], rfl, rfl⟩

theorem Ahead.skip {cs ds : List Char} (h : Ahead s i (cs ++ ds)) : Ahead s (i + width cs) ds := by
  obtain ⟨front, hs, rfl⟩ := h
  refine ⟨front ++ cs, ?_, ?_⟩
  · rw [hs, List.append_assoc]
  · rw [width_append]

theorem Ahead.next {c : Char} {cs : List Char} (h : Ahead s i (c :: cs)) :
    Ahead s (i + c.utf8Size) cs := by
  have hsplit : Ahead s i ([c] ++ cs) := h
  exact hsplit.skip

theorem Ahead.isValid {cs : List Char} (h : Ahead s i cs) : String.Pos.Raw.IsValid s ⟨i⟩ := by
  obtain ⟨front, hs, rfl⟩ := h
  rw [String.Pos.Raw.isValid_iff_exists_append]
  refine ⟨String.ofList front, String.ofList cs, ?_, ?_⟩
  · rw [← String.ofList_append, ← hs, String.ofList_toList]
  · rw [← size_utf8Encode]
    rfl

theorem Ahead.size {cs : List Char} (h : Ahead s i cs) : s.toByteArray.size = i + width cs := by
  obtain ⟨front, hs, rfl⟩ := h
  rw [← String.utf8Encode_toList, hs, size_utf8Encode, width_append]

/-- The bytes of the next character. -/
theorem Ahead.getElem {c : Char} {cs : List Char} (h : Ahead s i (c :: cs)) {k : Nat}
    (hk : k < (String.utf8EncodeChar c).length) :
    ∃ hlt : i + k < s.toByteArray.size, s.toByteArray[i + k] = (String.utf8EncodeChar c)[k] := by
  have hsize := h.size
  obtain ⟨front, hs, rfl⟩ := h
  have hbytes : s.toByteArray =
      front.utf8Encode ++ ((String.utf8EncodeChar c).toByteArray ++ cs.utf8Encode) := by
    rw [← String.utf8Encode_toList, hs, List.utf8Encode_append, List.utf8Encode_cons,
      List.utf8Encode_singleton]
  refine ⟨?_, ?_⟩
  · rw [String.length_utf8EncodeChar] at hk
    rw [hsize, width_cons]
    omega
  · simp only [hbytes, ← size_utf8Encode]
    rw [ByteArray.getElem_append_right (by omega), ByteArray.getElem_append_left]
    · simp
    · simpa using hk

/-- The first byte of the next character means what the character means. -/
theorem Ahead.byte {c : Char} {cs : List Char} (h : Ahead s i (c :: cs)) :
    ∃ hlt : i < s.toByteArray.size, isNameByte s.toByteArray[i] = isNameChar c ∧
      (s.toByteArray[i] = dollarByte ↔ c = '$') := by
  have hk : 0 < (String.utf8EncodeChar c).length := by
    rw [String.length_utf8EncodeChar]
    exact c.utf8Size_pos
  obtain ⟨hlt, hbyte⟩ := h.getElem hk
  rw [Nat.add_zero] at hlt
  simp only [Nat.add_zero] at hbyte
  refine ⟨hlt, ?_⟩
  rw [hbyte]
  rcases encode_cases c with ⟨b, hb, hname, hdollar⟩ | ⟨hname, hdollar, hnone⟩
  · simp only [hb, List.getElem_cons_zero]
    exact ⟨hname, hdollar⟩
  · obtain ⟨hno, hne⟩ := hnone _ (List.getElem_mem hk)
    refine ⟨hno.trans hname.symm, ?_, ?_⟩
    · intro h
      exact absurd h hne
    · intro h
      exact absurd h hdollar

/-- What stands between two characters is a text. -/
theorem Ahead.slice {cs ds : List Char} (h : Ahead s i (cs ++ ds)) :
    slice? s i (i + width cs) = some (String.ofList cs) := by
  rw [slice?, dif_pos ⟨Nat.le_add_right _ _, h.isValid, h.skip.isValid⟩, Option.some.injEq,
    ← String.toByteArray_inj, String.toByteArray_ofList]
  obtain ⟨front, hs, rfl⟩ := h
  show s.toByteArray.extract (width front) (width front + width cs) = cs.utf8Encode
  have hbytes : s.toByteArray = front.utf8Encode ++ (cs.utf8Encode ++ ds.utf8Encode) := by
    rw [← String.utf8Encode_toList, hs, List.utf8Encode_append, List.utf8Encode_append]
  have hskip := ByteArray.extract_append_size_add (a := front.utf8Encode)
    (b := cs.utf8Encode ++ ds.utf8Encode) (i := 0) (j := cs.utf8Encode.size)
  rw [Nat.add_zero] at hskip
  rw [hbytes, ← size_utf8Encode, ← size_utf8Encode, hskip, ByteArray.extract_append_size_left,
    ByteArray.extract_zero_size]

/-! ## Names -/

theorem utf8Size_of_isNameChar {c : Char} (h : isNameChar c = true) : c.utf8Size = 1 := by
  rw [← String.length_utf8EncodeChar]
  rcases encode_cases c with ⟨b, hb, -⟩ | ⟨hno, -⟩
  · rw [hb]
    rfl
  · rw [hno] at h
    cases h

/-- A name ends where its characters end. -/
theorem Ahead.nameEnd {name cs : List Char} (h : Ahead s i (name ++ cs))
    (hname : ∀ c ∈ name, isNameChar c = true) (hcs : ∀ c ∈ cs.head?, isNameChar c = false) :
    nameEnd s.toByteArray i = i + width name := by
  induction name generalizing i with
  | nil =>
      rw [Template.nameEnd]
      cases cs with
      | nil =>
          have hsize : s.toByteArray.size = i := h.size
          rw [dif_neg (by omega)]
          rfl
      | cons c rest =>
          have hhead : Ahead s i (c :: rest) := h
          have hc : isNameChar c = false := hcs c rfl
          obtain ⟨hlt, hbyte, -⟩ := hhead.byte
          rw [dif_pos hlt, hbyte, hc]
          rfl
  | cons c rest ih =>
      obtain ⟨hc, hrest⟩ := List.forall_mem_cons.mp hname
      have hhead : Ahead s i (c :: (rest ++ cs)) := h
      have hnext : Ahead s (i + c.utf8Size) (rest ++ cs) := hhead.next
      obtain ⟨hlt, hbyte, -⟩ := hhead.byte
      rw [utf8Size_of_isNameChar hc] at hnext
      rw [Template.nameEnd, dif_pos hlt, hbyte, if_pos hc, ih hnext hrest, width_cons,
        utf8Size_of_isNameChar hc, Nat.add_assoc]

/-! ## Scanning -/

/-- The variables among pieces, the first of which begins at an index. -/
def tokens (i : Nat) : List Piece → List Token
  | [] => []
  | .literal c :: ps => tokens (i + c.utf8Size) ps
  | .variable name :: ps =>
      ⟨i, i + 1 + width name, String.ofList name⟩ :: tokens (i + 1 + width name) ps

theorem scan_pass {n : Nat}
    (h : ∀ k < n, ∃ hlt : i + k < s.toByteArray.size, s.toByteArray[i + k] ≠ dollarByte) :
    scan s i = scan s (i + n) := by
  induction n with
  | zero => rfl
  | succ n ih =>
      obtain ⟨hlt, hbyte⟩ := h n (Nat.lt_succ_self n)
      rw [ih fun k hk => h k (Nat.lt_succ_of_lt hk), scan, dif_pos hlt, if_neg hbyte]
      rfl

/-- A character other than a dollar sign is passed over, with all its bytes. -/
theorem Ahead.scan_literal {c : Char} {cs : List Char} (h : Ahead s i (c :: cs)) (hc : c ≠ '$') :
    scan s i = scan s (i + c.utf8Size) := by
  apply scan_pass
  intro k hk
  rw [← String.length_utf8EncodeChar] at hk
  obtain ⟨hlt, hbyte⟩ := h.getElem hk
  refine ⟨hlt, ?_⟩
  rw [hbyte]
  rcases encode_cases c with ⟨b, hb, -, hdollar⟩ | ⟨-, -, hnone⟩
  · have hmem : (String.utf8EncodeChar c)[k] ∈ [b] := by
      rw [← hb]
      exact List.getElem_mem hk
    rw [List.mem_singleton.mp hmem]
    intro heq
    exact hc (hdollar.mp heq)
  · exact (hnone _ (List.getElem_mem hk)).2

/-- A dollar sign with a name behind it is a variable, and scanning goes on behind the name. -/
theorem Ahead.scan_variable {name cs : List Char} (h : Ahead s i ('$' :: (name ++ cs)))
    (hne : name ≠ []) (hname : ∀ c ∈ name, isNameChar c = true)
    (hcs : ∀ c ∈ cs.head?, isNameChar c = false) {rest : List Token}
    (hrest : scan s (i + 1 + width name) = some rest) :
    scan s i = some (⟨i, i + 1 + width name, String.ofList name⟩ :: rest) := by
  obtain ⟨hlt, -, hdollar⟩ := h.byte
  have hnext : Ahead s (i + 1) (name ++ cs) := h.next
  have hend : Template.nameEnd s.toByteArray (i + 1) = i + 1 + width name := hnext.nameEnd hname hcs
  have hlonger : i + 1 < i + 1 + width name := by
    cases name with
    | nil => exact absurd rfl hne
    | cons c more =>
        have hsize := c.utf8Size_pos
        rw [width_cons]
        omega
  rw [scan, dif_pos hlt, if_pos (hdollar.mpr rfl)]
  simp only [hend]
  rw [dif_pos hlonger, hnext.slice, hrest]

/-- A dollar sign without a name is passed over. -/
theorem Ahead.scan_lone {cs : List Char} (h : Ahead s i ('$' :: cs))
    (hcs : ∀ c ∈ cs.head?, isNameChar c = false) : scan s i = scan s (i + 1) := by
  obtain ⟨hlt, -, hdollar⟩ := h.byte
  have hnext : Ahead s (i + 1) ([] ++ cs) := h.next
  have hend : Template.nameEnd s.toByteArray (i + 1) = i + 1 + width [] := hnext.nameEnd (by simp) hcs
  rw [scan, dif_pos hlt, if_pos (hdollar.mpr rfl)]
  simp only [hend]
  rw [dif_neg (by simp)]

/-- Where pieces do not begin with a character of a name, what they are written as does not either. -/
theorem head?_source {ps : List Piece} (h : ∀ q ∈ ps.head?, q.isNamePart = false) :
    ∀ c ∈ (ps.flatMap Piece.source).head?, isNameChar c = false := by
  intro c hc
  cases ps with
  | nil => cases hc
  | cons p rest =>
      have hp : p.isNamePart = false := h p rfl
      cases p with
      | literal d =>
          cases hc
          exact hp
      | «variable» name =>
          cases hc
          decide

/-- Scanning finds the variables among the pieces, and every name is a text. -/
theorem Ahead.scan {ps : List Piece} (h : Ahead s i (ps.flatMap Piece.source)) (hps : WellCut ps) :
    scan s i = some (tokens i ps) := by
  induction ps generalizing i with
  | nil =>
      have hsize : s.toByteArray.size = i := h.size
      rw [Template.scan, dif_neg (by omega)]
      rfl
  | cons p rest ih =>
      cases p with
      | literal c =>
          obtain ⟨hbehind, hrest⟩ := wellCut_literal.mp hps
          have hnext : Ahead s (i + c.utf8Size) (rest.flatMap Piece.source) := Ahead.next h
          rw [tokens, ← ih hnext hrest]
          by_cases hc : c = '$'
          · subst hc
            exact Ahead.scan_lone h (head?_source (hbehind rfl))
          · exact Ahead.scan_literal h hc
      | «variable» name =>
          obtain ⟨⟨hne, hname⟩, hbehind, hrest⟩ := wellCut_variable.mp hps
          have hnext : Ahead s (i + 1 + width name) (rest.flatMap Piece.source) :=
            (Ahead.next (c := '$') h).skip
          exact Ahead.scan_variable h hne hname (head?_source hbehind) (ih hnext hrest)

theorem ahead_pieces (template : String) :
    Ahead template 0 ((pieces template.toList).flatMap Piece.source) := by
  rw [flatMap_source_pieces]
  exact ahead_start template

theorem scan_eq (template : String) : scan template 0 = some (tokens 0 (pieces template.toList)) :=
  (ahead_pieces template).scan (wellCut_pieces template.toList)

/-- A dollar sign and a name are one variable. -/
theorem scan_dollar_name {name : String} (hne : name ≠ "")
    (hname : ∀ c ∈ name.toList, isNameChar c = true) :
    scan ("$" ++ name) 0 = some [⟨0, ("$" ++ name).utf8ByteSize, name⟩] := by
  have hchars : ("$" ++ name).toList = '$' :: name.toList := by
    rw [String.toList_append]
    rfl
  have hsize : ("$" ++ name).utf8ByteSize = 0 + 1 + width name.toList := by
    have hstart := (ahead_start ("$" ++ name)).size
    rw [hchars, width_cons, ← Nat.add_assoc] at hstart
    exact hstart
  have hne' : name.toList ≠ [] := by simpa using hne
  have hpieces : pieces ('$' :: name.toList) = [.variable name.toList] :=
    @pieces_variable [] name.toList List.not_mem_nil hne' hname
  rw [scan_eq, hchars, hsize, hpieces, tokens, tokens, String.ofList_toList]

/-! ## Copying -/

/-- Copying slices expands the pieces: `copied` has been passed over since the last slice. -/
theorem Ahead.splice {ctx : Context} {mode : Expansion} {ps : List Piece} {copied : List Char}
    (h : Ahead s i (copied ++ ps.flatMap Piece.source)) (out : String) :
    splice ctx mode s out i (tokens (i + width copied) ps) =
      some ((expandAll ctx mode ps).map fun cs => out ++ String.ofList (copied ++ cs)) := by
  induction ps generalizing i copied out with
  | nil =>
      have hend : i + width copied = s.toByteArray.size := by
        rw [h.size]
        simp
      rw [tokens, Template.splice, ← hend, h.slice]
      simp [expandAll, Except.map]
  | cons p rest ih =>
      cases p with
      | literal c =>
          have hmore : Ahead s i ((copied ++ [c]) ++ rest.flatMap Piece.source) := by
            rw [List.append_assoc]
            exact h
          have hat : i + width (copied ++ [c]) = i + width copied + c.utf8Size := by
            rw [width_append, width_cons, width_nil, Nat.add_zero, Nat.add_assoc]
          rw [tokens, ← hat, ih hmore out]
          simp only [expandAll, Piece.expand]
          cases expandAll ctx mode rest with
          | error e => rfl
          | ok cs => simp [Except.map]
      | «variable» name =>
          have hat : Ahead s (i + width copied) (('$' :: name) ++ rest.flatMap Piece.source) :=
            h.skip
          have hkept : slice? s (i + width copied) (i + width copied + 1 + width name) =
              some (String.ofList ('$' :: name)) := by
            rw [Nat.add_assoc]
            exact hat.slice
          have hnext : Ahead s (i + width copied + 1 + width name)
              ([] ++ rest.flatMap Piece.source) := by
            rw [Nat.add_assoc]
            exact hat.skip
          have hrest : ∀ out, splice ctx mode s out (i + width copied + 1 + width name)
              (tokens (i + width copied + 1 + width name) rest) =
              some ((expandAll ctx mode rest).map fun cs => out ++ String.ofList cs) :=
            ih hnext
          rw [tokens, Template.splice, h.slice]
          cases htext : ctx.getText (String.ofList name) with
          | ok value =>
              simp only [htext, hrest, expandAll, Piece.expand]
              cases expandAll ctx mode rest with
              | error e => rfl
              | ok cs => simp [Except.map, String.append_assoc, String.ofList_append]
          | error e =>
              cases mode with
              | strict =>
                  simp only [htext, expandAll, Piece.expand]
                  rfl
              | lenient =>
                  simp only [htext, hkept, hrest, expandAll, Piece.expand]
                  cases expandAll ctx .lenient rest with
                  | error e => rfl
                  | ok cs => simp [Except.map, String.append_assoc, String.ofList_append]

/-- Reading a template byte by byte comes to its expansion, and never cuts through a character. -/
theorem expandBytes_eq (ctx : Context) (mode : Expansion) (template : String) :
    expandBytes ctx mode template = some (expand ctx mode template) := by
  have hstart : Ahead template 0 ([] ++ (pieces template.toList).flatMap Piece.source) :=
    ahead_pieces template
  have hcopied : splice ctx mode template "" 0 (tokens 0 (pieces template.toList)) =
      some ((expandAll ctx mode (pieces template.toList)).map fun cs => "" ++ String.ofList cs) :=
    hstart.splice ""
  have hsplice : splice ctx mode template "" 0 (tokens 0 (pieces template.toList)) =
      some (expand ctx mode template) := by
    simpa [expand] using hcopied
  rw [expandBytes, scan_eq]
  cases htokens : tokens 0 (pieces template.toList) with
  | nil =>
      -- Without variables, what copying would come to is the template itself.
      have hwhole : Ahead template 0 (template.toList ++ []) := by
        rw [List.append_nil]
        exact ahead_start template
      have hsize : template.toByteArray.size = 0 + width template.toList := (ahead_start template).size
      rw [htokens, Template.splice, hsize, hwhole.slice] at hsplice
      simpa using hsplice
  | cons t rest =>
      rw [htokens] at hsplice
      exact hsplice

/-! ## Templates behind one another -/

/-- Pieces behind one another expand to their texts behind one another, and the first ones that fail
decide. -/
theorem expandAll_append (ctx : Context) (mode : Expansion) (ps qs : List Piece) :
    expandAll ctx mode (ps ++ qs) =
      match expandAll ctx mode ps, expandAll ctx mode qs with
      | .ok cs, .ok ds => .ok (cs ++ ds)
      | .ok _, .error e => .error e
      | .error e, _ => .error e := by
  induction ps with
  | nil =>
      simp only [List.nil_append, expandAll]
      cases expandAll ctx mode qs <;> rfl
  | cons p rest ih =>
      simp only [List.cons_append, expandAll, ih]
      cases p.expand ctx mode with
      | error e => rfl
      | ok front =>
          cases expandAll ctx mode rest with
          | error e => rfl
          | ok cs =>
              cases expandAll ctx mode qs with
              | error e => rfl
              | ok ds => simp only [List.append_assoc]

/-- **Templates behind one another, and by their bytes.** The expansion of two texts behind one another
is that of the first with that of the second behind it, and fails as the first of the two does that
fails, unless a dollar sign and the characters of a name, or none, end the first text and such a
character begins the second. Every template can be read by its bytes without a slice that cuts through
a character: that finds the variables among its pieces, and comes to the same expansion. The pieces are
the only ones that are written like the template in which every variable has a name and no character
that may stand in a name follows a variable or a lone dollar sign. -/
theorem expand_concat (ctx : Context) (mode : Expansion) :
    (∀ a b : String, ¬ (EndsOpen a.toList ∧ BeginsNamed b.toList) →
      expand ctx mode (a ++ b) =
        match expand ctx mode a, expand ctx mode b with
        | .ok x, .ok y => .ok (x ++ y)
        | .ok _, .error e => .error e
        | .error e, _ => .error e) ∧
      ∀ template : String,
        expandBytes ctx mode template = some (expand ctx mode template) ∧
          scan template 0 = some (tokens 0 (pieces template.toList)) ∧
          ∀ ps, pieces template.toList = ps ↔
            ps.flatMap Piece.source = template.toList ∧ WellCut ps := by
  constructor
  · intro a b hnot
    unfold expand
    rw [String.toList_append, pieces_append_of_not_joined hnot, expandAll_append]
    cases expandAll ctx mode (pieces a.toList) with
    | error e => rfl
    | ok cs =>
        cases expandAll ctx mode (pieces b.toList) with
        | error e => rfl
        | ok ds => simp [Except.map, String.ofList_append]
  · intro template
    refine ⟨expandBytes_eq ctx mode template, scan_eq template, ?_⟩
    intro ps
    exact pieces_eq_iff

end Conformance.Template
