import Conformance.Proofs.Text.Lowercase
import Conformance.Proofs.Text.Percent
import Conformance.Proofs.Url.Address
import Conformance.Proofs.Url.Form

/-!
# Reading back hosts

Every host that was read, by the rules of the web or by the plainer ones, is read back from its text
(`readsBack_of_readAs`): a name is its own ASCII form already and holds nothing that is decoded, and the
addresses are within their bounds. Of the text, all that a URL relies on is what characters it is
made of (`Written`). What is used of ASCII forms is what `LawfulIdna` says of them.
-/

namespace Conformance

open Text

/-! ## Forms without tables -/

namespace Idna

theorem ascii_eq_some_iff {name form : List Char} : ascii.toAscii? name = some form ↔
    (∀ c ∈ name, c.toNat < 0x80) ∧ name.map asciiLower = form := by
  unfold ascii
  dsimp only
  rw [Option.ite_none_right_eq_some, List.all_eq_true, Option.some.injEq]
  simp only [decide_eq_true_eq]

theorem lower_facts {c : Char} (h : c.toNat < 0x80) :
    (asciiLower c).toNat < 0x80 ∧ asciiLower (asciiLower c) = asciiLower c := by
  apply forall_ascii h
  decide

/-- They keep what is promised of forms. -/
instance ascii_lawful : LawfulIdna where
  ascii := by
    intro name form h
    obtain ⟨hascii, rfl⟩ := ascii_eq_some_iff.mp h
    intro c hc
    obtain ⟨d, hd, rfl⟩ := List.mem_map.mp hc
    exact lower_facts (hascii d hd)
  again := by
    intro name form h
    obtain ⟨hascii, rfl⟩ := ascii_eq_some_iff.mp h
    refine ascii_eq_some_iff.mpr ⟨fun c hc => ?_, ?_⟩
    · obtain ⟨d, hd, rfl⟩ := List.mem_map.mp hc
      exact (lower_facts (hascii d hd)).1
    · rw [List.map_map]
      exact List.map_congr_left fun c hc => (lower_facts (hascii c hc)).2
  plain := by
    intro name h
    rw [isPlain, Bool.and_eq_true, List.all_eq_true] at h
    exact ascii_eq_some_iff.mpr ⟨fun c hc => of_decide_eq_true (h.1 c hc), rfl⟩

end Idna

namespace Host

/-! ## Texts of hosts -/

/-- Whether `c` is refused in the host of a URL whose scheme is none of the web. -/
def isRefused (c : Char) : Bool :=
  c.toNat == 0 || c == '\t' || c == '\n' || c == '\r' || c == ' ' ||
    ['#', '/', ':', '<', '>', '?', '@', '[', '\\', ']', '^', '|'].contains c

/-- Whether `c` may stand in the text of a host that is not in brackets. -/
def isBare (c : Char) : Bool := !isControl c && !isRefused c

/-- The text of a host: one without marks, or the digits and colons of an address in brackets. -/
inductive Written : List Char → Prop where
  | bare {cs : List Char} (h : ∀ c ∈ cs, isBare c = true) : Written cs
  | bracketed {cs : List Char} (h : ∀ c ∈ cs, isInner c = true) : Written ('[' :: cs ++ [']'])

/-- Reading a host, whether or not the scheme is one of the web. -/
def readAs [Idna] (special : Bool) (cs : List Char) : Except UrlError Host :=
  if special then read cs else readPlain cs

/-- A host that is read back from its text. -/
structure ReadsBack [Idna] (special : Bool) (host : Host) : Prop where
  written : Written host.render.toList
  read : readAs special host.render.toList = .ok host
  named : special = true → host ≠ .domain ""

/-! ## Names -/

/-- What is true of each character of a domain name. -/
structure IsNameChar (c : Char) : Prop where
  allowed : isForbidden c = false
  ascii : c.toNat < 0x80
  lower : asciiLower c = c

theorem isBare_of_allowed {c : Char} (h : c.toNat < 0x80) :
    isForbidden c = false → isBare c = true := by
  apply forall_ascii h
  decide

theorem digit_facts {c : Char} (h : c.toNat < 0x80) : isDigit c = true →
    isForbidden c = false ∧ asciiLower c = c := by
  apply forall_ascii h
  decide

theorem isNameChar_of_isDigit {c : Char} (h : isDigit c = true) : IsNameChar c := by
  have hascii : c.toNat < 0x80 := by
    have hle : c.toNat ≤ '9'.toNat := by
      simp only [isDigit, Bool.and_eq_true, decide_eq_true_eq] at h
      exact h.2
    exact Nat.lt_of_le_of_lt hle (by decide)
  obtain ⟨hallowed, hlower⟩ := digit_facts hascii h
  exact ⟨hallowed, hascii, hlower⟩

theorem IsNameChar.bare {c : Char} (h : IsNameChar c) : isBare c = true :=
  isBare_of_allowed h.ascii h.allowed

theorem percentDecode_of_not_mem {cs : List Char} (h : '%' ∉ cs) :
    Percent.decode cs = Utf8.encode cs := by
  induction cs with
  | nil => rfl
  | cons c rest ih =>
      rw [List.mem_cons, not_or] at h
      rw [Form.percentDecode_cons (Ne.symm h.1), ih h.2]
      rfl

/-- A number is no encoded label. -/
theorem isEncoded_of_isDigit {label : List Char} (h : ∀ c ∈ label, isDigit c = true) :
    Idna.isEncoded label = false := by
  refine Bool.eq_false_iff.mpr fun hencoded => ?_
  have hx : 'x' ∈ label.map asciiLower :=
    (List.isPrefixOf_iff_prefix.mp hencoded).subset (by decide)
  obtain ⟨c, hc, hlower⟩ := List.mem_map.mp hx
  have hdigit := h c hc
  rw [← (isNameChar_of_isDigit hdigit).lower, hlower] at hdigit
  exact absurd hdigit (by decide)

theorem head?_ne_bracket {cs : List Char} (h : ∀ c ∈ cs, isBare c = true) :
    cs.head? ≠ some '[' := by
  intro hhead
  exact absurd (h _ (List.mem_of_mem_head? hhead)) (by decide)

/-- A name in ASCII form, of characters that a domain name may hold. -/
structure IsName [Idna] (name : List Char) : Prop where
  chars : ∀ c ∈ name, IsNameChar c
  form : Idna.toAscii? name = some name

section

variable [Idna] [LawfulIdna]

theorem isName_of_domain? {cs name : List Char} (h : domain? cs = some name) : IsName name := by
  obtain ⟨decoded, -, h⟩ := Option.bind_eq_some_iff.mp h
  obtain ⟨form, hform, h⟩ := Option.bind_eq_some_iff.mp h
  split at h
  next => cases h
  next hallowed =>
    cases h
    refine ⟨fun c hc => ?_, LawfulIdna.again hform⟩
    obtain ⟨hascii, hlower⟩ := LawfulIdna.ascii hform c hc
    refine ⟨?_, hascii, hlower⟩
    simp only [List.any_eq_true, not_exists, not_and, Bool.not_eq_true] at hallowed
    exact hallowed c hc

/-- Of a name without encoded labels the form is the name itself. -/
theorem isName_of_isPlain {name : List Char} (hchars : ∀ c ∈ name, IsNameChar c)
    (hlabels : ∀ label ∈ splitOn '.' name, Idna.isEncoded label = false) : IsName name := by
  have hplain : Idna.isPlain name = true := by
    rw [Idna.isPlain, Bool.and_eq_true, Bool.not_eq_true', List.any_eq_false, List.all_eq_true]
    exact ⟨fun c hc => decide_eq_true (hchars c hc).ascii, fun label hl =>
      Bool.eq_false_iff.mp (hlabels label hl)⟩
  refine ⟨hchars, ?_⟩
  rw [LawfulIdna.plain hplain, List.map_congr_left fun c hc => (hchars c hc).lower, List.map_id']

end

/-- A domain name is read as what it is. -/
theorem IsName.domain?_eq [Idna] {name : List Char} (h : IsName name) :
    domain? name = some name := by
  have hpercent : '%' ∉ name := fun hmem => absurd (h.chars _ hmem).allowed (by decide)
  have hallowed : name.any isForbidden = false :=
    List.any_eq_false.mpr fun c hc => Bool.eq_false_iff.mp (h.chars c hc).allowed
  rw [domain?, percentDecode_of_not_mem hpercent, Utf8.decode?_encode]
  simp only [Option.bind_eq_bind, Option.bind_some, h.form, hallowed, Bool.false_eq_true, if_false]

/-! ## Hosts -/

variable [Idna]

theorem readsBack_ipv6 (special : Bool) {pieces : List Nat} (hlt : ∀ p ∈ pieces, p < 65536)
    (hlen : pieces.length = 8) : ReadsBack special (.ipv6 pieces) := by
  obtain ⟨body, htext, hread, hinner⟩ := ipv6?_render hlt hlen
  have hbracketed : bracketed? ('[' :: body ++ [']']) = .ok (.ipv6 pieces) := by
    rw [bracketed?, List.getLast?_concat]
    simp [hread]
  refine ⟨?_, ?_, fun _ => Host.noConfusion⟩
  · rw [htext]
    exact .bracketed hinner
  · rw [htext]
    cases special <;> exact hbracketed

theorem readsBack_of_bracketed? (special : Bool) {cs : List Char} {host : Host}
    (h : bracketed? cs = .ok host) : ReadsBack special host := by
  unfold bracketed? at h
  split at h
  next =>
    split at h
    next pieces hpieces =>
      cases h
      obtain ⟨hlen, hlt⟩ := ipv6?_bounds hpieces
      exact readsBack_ipv6 special hlt hlen
    next => cases h
  next => cases h

theorem readsBack_ipv4 [LawfulIdna] {address : Nat} (h : address < 2 ^ 32) :
    ReadsBack true (.ipv4 address) := by
  have hchars : ∀ c ∈ (render (.ipv4 address)).toList, IsNameChar c := by
    rw [toList_render_ipv4]
    intro c hc
    rcases mem_intercalate hc with rfl | ⟨part, hpart, hc⟩
    · exact ⟨by decide, by decide, by decide⟩
    · obtain ⟨n, -, rfl⟩ := List.mem_map.mp hpart
      exact isNameChar_of_isDigit (Text.isDigit_of_mem_decimalDigits hc)
  have hname : IsName (render (.ipv4 address)).toList := by
    refine isName_of_isPlain hchars fun label hlabel => ?_
    rw [splitOn_render_ipv4] at hlabel
    obtain ⟨n, -, rfl⟩ := List.mem_map.mp hlabel
    exact isEncoded_of_isDigit fun c => Text.isDigit_of_mem_decimalDigits
  have hbare := fun c hc => (hchars c hc).bare
  have hne : (render (.ipv4 address)).toList.isEmpty = false := by
    rw [toList_render_ipv4]
    simp [bytes]
  refine ⟨.bare hbare, ?_, fun _ => Host.noConfusion⟩
  simp [readAs, read, head?_ne_bracket hbare, hname.domain?_eq, hne,
    endsInNumber_render_ipv4, ipv4?_render h]

/-- No host has an empty text. -/
theorem read_nil [LawfulIdna] : read [] = .error .emptyHost := by
  have hname : IsName [] := isName_of_isPlain (fun c hc => absurd hc List.not_mem_nil) (by decide)
  simp [read, hname.domain?_eq]

theorem readsBack_domain {name : List Char} (hname : IsName name) (hne : name ≠ [])
    (hnumber : endsInNumber name = false) : ReadsBack true (.domain (String.ofList name)) := by
  have hbare := fun c hc => (hname.chars c hc).bare
  refine ⟨?_, ?_, by simpa using hne⟩
  · rw [render, String.toList_ofList]
    exact .bare hbare
  · rw [render, String.toList_ofList]
    simp [readAs, read, head?_ne_bracket hbare, hname.domain?_eq, hne, hnumber]

theorem readsBack_read [LawfulIdna] {cs : List Char} {host : Host} (h : read cs = .ok host) :
    ReadsBack true host := by
  unfold read at h
  split at h
  next => exact readsBack_of_bracketed? true h
  next =>
    split at h
    next => cases h
    next name hname =>
      split at h
      next => cases h
      next hne =>
        split at h
        next =>
          split at h
          next address haddress =>
            cases h
            exact readsBack_ipv4 (ipv4?_lt haddress)
          next => cases h
        next hnumber =>
          cases h
          exact readsBack_domain (isName_of_domain? hname) (by simpa using hne)
            (Bool.eq_false_iff.mpr hnumber)

theorem readsBack_plain {cs : List Char} (h : ∀ c ∈ cs, isRefused c = false) :
    ReadsBack false (.domain (String.ofList (Percent.encode (fun c => !isControl c) cs))) := by
  have hbare : ∀ c ∈ Percent.encode (fun c => !isControl c) cs, isBare c = true :=
    Percent.forall_mem_encode (by decide) (by decide) fun c hc hplain => by
      rw [isBare, hplain, h c hc]
      rfl
  have hrefused : (Percent.encode (fun c => !isControl c) cs).any isRefused = false := by
    rw [List.any_eq_false]
    intro c hc
    have hc := hbare c hc
    simp only [isBare, Bool.and_eq_true, Bool.not_eq_true'] at hc
    rw [hc.2]
    exact Bool.false_ne_true
  refine ⟨?_, ?_, by simp⟩
  · rw [render, String.toList_ofList]
    exact .bare hbare
  · rw [render, String.toList_ofList]
    show (if _ then _ else if List.any _ isRefused then _ else _) = _
    rw [hrefused, Percent.encode_encode (by decide) (by decide)]
    simp [head?_ne_bracket hbare]

theorem readsBack_readPlain {cs : List Char} {host : Host} (h : readPlain cs = .ok host) :
    ReadsBack false host := by
  have heq : readPlain cs = if cs.head? == some '[' then bracketed? cs
      else if cs.any isRefused then .error .invalidHostCharacter
      else .ok (.domain (String.ofList (Percent.encode (fun c => !isControl c) cs))) := rfl
  rw [heq] at h
  split at h
  next => exact readsBack_of_bracketed? false h
  next =>
    split at h
    next => cases h
    next hall =>
      cases h
      exact readsBack_plain (by simpa using hall)

/-- A host that was read is read back from its text. -/
theorem readsBack_of_readAs [LawfulIdna] {special : Bool} {cs : List Char} {host : Host}
    (h : readAs special cs = .ok host) : ReadsBack special host := by
  cases special with
  | true => exact readsBack_read h
  | false => exact readsBack_readPlain h

end Host

end Conformance
