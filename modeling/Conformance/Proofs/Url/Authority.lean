import Conformance.Proofs.Except
import Conformance.Proofs.Url.Host
import Conformance.Url

/-!
# Reading back authorities

What it takes for a text to be read as an authority is said once (`Reads`, `authorityOf_eq`). From
it follow what is true of every authority that was read (`ProperAuthority`) and that such an
authority is read back from its text (`authorityOf_render`): the marks that the text is cut at stand
in none of the parts between them.
-/

namespace Conformance.Url

open Text

variable {scheme : String} {followed : Bool}

/-! ## What it takes -/

/-- The port of what follows a host, if anything does. -/
def portAs (scheme : String) (port : Option (List Char)) : Except UrlError (Option Nat) :=
  match port with
  | none => .ok none
  | some digits => portOf scheme digits

/-- The authority of the parts that its text is cut into. -/
def authorityFrom [Idna] (scheme : String) (followed : Bool) (user : Option (List Char))
    (rest hostText : List Char) (portText : Option (List Char)) : Except UrlError Authority :=
  let (username, password) := userOf (user.getD [])
  if user == some [] && rest.isEmpty && followed then .error .emptyHost
  else if hostText.isEmpty && isSpecial scheme then .error .emptyHost
  else do
    let host ← Host.readAs (isSpecial scheme) hostText
    if host == .domain "" && (portText.isSome || username != "" || password != "") then
      .error .emptyHost
    else do
      let port ← portAs scheme portText
      .ok { username, password, host, port }

theorem authorityOf_eq [Idna] (scheme : String) (followed : Bool) (cs : List Char) :
    authorityOf scheme followed cs = authorityFrom scheme followed (cutUser cs).1 (cutUser cs).2
      (cutPort false (cutUser cs).2).1 (cutPort false (cutUser cs).2).2 := by
  unfold authorityOf authorityFrom
  simp only [bind, Except.bind, pure, Except.pure, throw, throwThe, MonadExceptOf.throw, portAs,
    Host.readAs]
  rcases cutUser cs with ⟨user, rest⟩
  rcases cutPort false rest with ⟨host, port⟩
  rcases userOf (user.getD []) with ⟨username, password⟩
  dsimp only
  cases port <;> cases isSpecial scheme <;> simp only [Bool.false_eq_true, if_false, if_true]
  · cases Host.readPlain host <;> grind
  · cases Host.read host <;> grind
  · cases Host.readPlain host <;> grind
  · cases Host.read host <;> grind

/-- What it takes for the parts of a text to make an authority. -/
structure Reads [Idna] (scheme : String) (followed : Bool) (user : Option (List Char))
    (rest hostText : List Char) (portText : Option (List Char)) (a : Authority) : Prop where
  notBlank : ¬(user = some [] ∧ rest = [] ∧ followed = true)
  named : hostText = [] → isSpecial scheme = false
  user : userOf (user.getD []) = (a.username, a.password)
  host : Host.readAs (isSpecial scheme) hostText = .ok a.host
  empty : a.host = .domain "" → portText = none ∧ a.username = "" ∧ a.password = ""
  port : portAs scheme portText = .ok a.port

theorem authorityFrom_eq_ok_iff [Idna] {user : Option (List Char)} {rest hostText : List Char}
    {portText : Option (List Char)} {a : Authority} :
    authorityFrom scheme followed user rest hostText portText = .ok a ↔
      Reads scheme followed user rest hostText portText a := by
  unfold authorityFrom
  rcases huser : userOf (user.getD []) with ⟨username, password⟩
  dsimp only
  constructor
  · intro h
    split at h
    next => cases h
    next hblank =>
      split at h
      next => cases h
      next hnamed =>
        obtain ⟨host, hhost, h⟩ := Except.bind_eq_ok_iff.mp h
        split at h
        next => cases h
        next hempty =>
          obtain ⟨port, hport, h⟩ := Except.bind_eq_ok_iff.mp h
          cases h
          refine ⟨?_, ?_, huser, hhost, ?_, hport⟩
          · simpa using hblank
          · simpa using hnamed
          · simpa [and_assoc] using hempty
  · rintro ⟨hblank, hnamed, huser', hhost, hempty, hport⟩
    rw [huser] at huser'
    cases huser'
    rw [if_neg (by simpa using hblank), if_neg (by simpa using hnamed), hhost]
    show (if _ then _ else (portAs scheme portText >>= _)) = _
    rw [hport, if_neg (by simpa [and_assoc] using hempty)]
    rfl

/-! ## Characters -/

/-- Whether `c` may stand in the text of an authority. -/
def isAuthorityChar (c : Char) : Bool :=
  !Host.isControl c && !([' ', '/', '\\', '?', '#'].contains c)

theorem isAuthorityChar_of_plainInUser {c : Char} (h : plainInUser c = true) :
    isAuthorityChar c = true := by
  simp only [plainInUser, plainInPath, plainInFragment, isAuthorityChar, Bool.and_eq_true,
    Bool.not_eq_true', Bool.or_eq_false_iff] at h ⊢
  simp_all

theorem isAuthorityChar_of_isBare {c : Char} (h : Host.isBare c = true) :
    isAuthorityChar c = true ∧ c ≠ '@' := by
  simp only [Host.isBare, Host.isRefused, isAuthorityChar, Bool.and_eq_true, Bool.not_eq_true',
    Bool.or_eq_false_iff] at h ⊢
  simp_all

theorem toNat_of_isInner {c : Char} (h : Host.isInner c = true) : c.toNat < 0x80 := by
  have hle : ∀ {d : Char}, c ≤ d → d.toNat < 0x80 → c.toNat < 0x80 :=
    fun hcd => Nat.lt_of_le_of_lt hcd
  unfold Host.isInner hexValue? at h
  simp only [isDigit, Bool.and_eq_true, decide_eq_true_eq] at h
  split at h
  next hc => exact hle hc.2 (by decide)
  next =>
    split at h
    next hc => exact hle hc.2 (by decide)
    next =>
      split at h
      next hc => exact hle hc.2 (by decide)
      next =>
        have hc : c = ':' := by simpa using h
        rw [hc]
        decide

theorem inner_facts {c : Char} (h : c.toNat < 0x80) : Host.isInner c = true →
    isAuthorityChar c = true ∧ c ≠ '@' := by
  apply forall_ascii h
  decide

theorem isAuthorityChar_of_isInner {c : Char} (h : Host.isInner c = true) :
    isAuthorityChar c = true ∧ c ≠ '@' :=
  inner_facts (toNat_of_isInner h) h

theorem isAuthorityChar_of_written {cs : List Char} (h : Host.Written cs) :
    ∀ c ∈ cs, isAuthorityChar c = true ∧ c ≠ '@' := by
  intro c hc
  cases h with
  | bare h => exact isAuthorityChar_of_isBare (h c hc)
  | bracketed h =>
      rw [List.mem_append, List.mem_cons, List.mem_singleton] at hc
      rcases hc with (rfl | hc) | rfl
      · decide
      · exact isAuthorityChar_of_isInner (h c hc)
      · decide

/-! ## Cutting -/

/-- A text with a mark in front. -/
def marked (mark : Char) : Option (List Char) → List Char
  | none => []
  | some cs => mark :: cs

theorem cutAt_marked {c : Char} {front : List Char} (h : c ∉ front) (tail : Option (List Char)) :
    cutAt c (front ++ marked c tail) = (front, tail) := by
  cases tail with
  | none => rw [marked, List.append_nil, cutAt, splitOnce_eq_none h]
  | some cs => rw [marked, cutAt, splitOnce_append h]

/-- A text is cut into a front without the mark, and what follows the mark if it occurs. -/
theorem cutAt_spec (c : Char) (cs : List Char) :
    ∃ front tail, c ∉ front ∧ cs = front ++ marked c tail ∧ cutAt c cs = (front, tail) := by
  by_cases h : c ∈ cs
  · obtain ⟨front, rest, hcs, hfront⟩ := List.eq_append_cons_of_mem h
    exact ⟨front, some rest, hfront, hcs, by rw [hcs]; exact cutAt_marked hfront (some rest)⟩
  · exact ⟨cs, none, h, (List.append_nil cs).symm, by simpa [marked] using cutAt_marked h none⟩

theorem cutPort_outside {cs : List Char} (h : ∀ c ∈ cs, c ≠ ':' ∧ c ≠ '[') (rest : List Char) :
    cutPort false (cs ++ rest) = (cs ++ (cutPort false rest).1, (cutPort false rest).2) := by
  induction cs with
  | nil => rfl
  | cons c cs ih =>
      obtain ⟨⟨hcolon, hbracket⟩, hcs⟩ := List.forall_mem_cons.mp h
      rw [List.cons_append, cutPort]
      simp [hcolon, hbracket, ih hcs]

theorem cutPort_inside {cs : List Char} (h : ']' ∉ cs) (rest : List Char) :
    cutPort true (cs ++ ']' :: rest) =
      (cs ++ ']' :: (cutPort false rest).1, (cutPort false rest).2) := by
  induction cs with
  | nil => simp [cutPort]
  | cons c cs ih =>
      rw [List.mem_cons, not_or] at h
      rw [List.cons_append, cutPort]
      simp [Ne.symm h.1, ih h.2]

theorem cutPort_written {cs : List Char} (h : Host.Written cs) (rest : List Char) :
    cutPort false (cs ++ rest) = (cs ++ (cutPort false rest).1, (cutPort false rest).2) := by
  cases h with
  | bare h =>
      refine cutPort_outside (fun c hc => ⟨?_, ?_⟩) rest
      · rintro rfl
        exact absurd (h _ hc) (by decide)
      · rintro rfl
        exact absurd (h _ hc) (by decide)
  | @bracketed cs h =>
      have hclose : ']' ∉ cs := fun hmem => absurd (h _ hmem) (by decide)
      rw [List.append_assoc, List.cons_append, cutPort]
      simp [cutPort_inside hclose]

theorem cutUser_none {cs : List Char} (h : '@' ∉ cs) : cutUser cs = (none, cs) := by
  rw [cutUser, splitOnce_eq_none (by simpa using h)]

theorem cutUser_some {rest : List Char} (h : '@' ∉ rest) (user : List Char) :
    cutUser (user ++ '@' :: rest) = (some user, rest) := by
  have hreverse : (user ++ '@' :: rest).reverse = rest.reverse ++ '@' :: user.reverse := by simp
  rw [cutUser, hreverse, splitOnce_append (by simpa using h)]
  simp

theorem portOf_decimalDigits {n : Nat} (hle : n ≤ 65535) (husual : usualPort? scheme ≠ some n) :
    portOf scheme (decimalDigits n) = .ok (some n) := by
  have hdigits : (decimalDigits n).all isDigit = true :=
    List.all_eq_true.mpr fun c => isDigit_of_mem_decimalDigits
  have hne : (decimalDigits n).isEmpty = false :=
    List.isEmpty_eq_false_iff.mpr Nat.toDigits_ne_nil
  rw [portOf, hdigits, digitsValue_decimalDigits, hne]
  simp [Nat.not_lt.mpr hle, husual]

theorem portOf_eq_ok {digits : List Char} {port : Option Nat}
    (h : portOf scheme digits = .ok port) :
    ∀ n ∈ port, n ≤ 65535 ∧ usualPort? scheme ≠ some n := by
  unfold portOf at h
  dsimp only at h
  split at h
  next => cases h
  next =>
    split at h
    next => cases h
    next hle =>
      split at h
      next =>
        cases h
        simp
      next husual =>
        cases h
        simp only [Bool.or_eq_true, beq_iff_eq, not_or] at husual
        simpa using ⟨Nat.not_lt.mp hle, husual.2⟩

theorem userOf_plain (cs : List Char) :
    (∀ c ∈ (userOf cs).1.toList, plainInUser c = true) ∧
      ∀ c ∈ (userOf cs).2.toList, plainInUser c = true := by
  rw [userOf]
  simp only [String.toList_ofList]
  exact ⟨Percent.forall_mem_encode (by decide) (by decide) fun _ _ h => h,
    Percent.forall_mem_encode (by decide) (by decide) fun _ _ h => h⟩

/-! ## Authorities that were read -/

/-- What is true of every authority that was read. -/
structure ProperAuthority [Idna] (scheme : String) (a : Authority) : Prop where
  username : ∀ c ∈ a.username.toList, plainInUser c = true
  password : ∀ c ∈ a.password.toList, plainInUser c = true
  host : a.host.ReadsBack (isSpecial scheme)
  empty : a.host = .domain "" → a.port = none ∧ a.username = "" ∧ a.password = ""
  port : ∀ n ∈ a.port, n ≤ 65535 ∧ usualPort? scheme ≠ some n

theorem proper_of_authorityOf [Idna] [LawfulIdna] {cs : List Char} {a : Authority}
    (h : authorityOf scheme followed cs = .ok a) : ProperAuthority scheme a := by
  rw [authorityOf_eq, authorityFrom_eq_ok_iff] at h
  have huser := userOf_plain ((cutUser cs).1.getD [])
  rw [h.user] at huser
  refine ⟨huser.1, huser.2, Host.readsBack_of_readAs h.host, fun hempty => ?_, ?_⟩
  · obtain ⟨hport, huser⟩ := h.empty hempty
    have := h.port
    rw [hport] at this
    exact ⟨(Except.ok.inj this).symm, huser⟩
  · have hport := h.port
    cases htext : (cutPort false (cutUser cs).2).2 with
    | none =>
        rw [htext] at hport
        simp [← Except.ok.inj hport]
    | some digits =>
        rw [htext] at hport
        exact portOf_eq_ok hport

/-! ## Reading back -/

/-- The text of the user and password, if there are any. -/
def userText (a : Authority) : Option (List Char) :=
  if a.username.isEmpty && a.password.isEmpty then none
  else some (a.username.toList ++
    marked ':' (if a.password.isEmpty then none else some a.password.toList))

/-- The text of the port, if there is one. -/
def portText (a : Authority) : Option (List Char) := a.port.map decimalDigits

theorem toList_render_authority (a : Authority) : (Authority.render a).toList =
    (match userText a with
      | none => []
      | some cs => cs ++ ['@']) ++ (a.host.render.toList ++ marked ':' (portText a)) := by
  rcases a with ⟨username, password, host, port⟩
  unfold Authority.render userText portText
  dsimp only
  by_cases hu : username.isEmpty <;> by_cases hp : password.isEmpty <;> cases port <;>
    simp [hu, hp, marked, decimal]

theorem userOf_userText [Idna] {a : Authority} (h : ProperAuthority scheme a) :
    userOf ((userText a).getD []) = (a.username, a.password) := by
  rcases a with ⟨username, password, host, port⟩
  obtain ⟨husername, hpassword, -, -, -⟩ := h
  have hcolon : ':' ∉ username.toList := fun hmem => absurd (husername _ hmem) (by decide)
  unfold userText userOf
  dsimp only at *
  split
  next hempty =>
    simp only [Bool.and_eq_true, String.isEmpty_iff] at hempty
    rw [hempty.1, hempty.2]
    rfl
  next =>
    rw [Option.getD_some, cutAt_marked hcolon]
    dsimp only
    rw [Percent.encode_of_plain husername, String.ofList_toList]
    split
    next hempty =>
      rw [String.isEmpty_iff.mp hempty]
      rfl
    next => rw [Option.getD_some, Percent.encode_of_plain hpassword, String.ofList_toList]

theorem userText_ne_nil (a : Authority) : userText a ≠ some [] := by
  unfold userText
  split
  next => nofun
  next hne =>
    intro hnil
    obtain ⟨husername, hpassword⟩ := List.append_eq_nil_iff.mp (Option.some.inj hnil)
    rw [String.toList_eq_nil_iff] at husername
    split at hpassword
    next hempty => exact hne (by rw [husername, hempty]; rfl)
    next => cases hpassword

theorem isDigit_of_mem_portText {a : Authority} {c : Char} (h : c ∈ (portText a).getD []) :
    isDigit c = true := by
  unfold portText at h
  cases hport : a.port with
  | none => simp [hport] at h
  | some n =>
      rw [hport] at h
      exact isDigit_of_mem_decimalDigits h

theorem host_ne_nil [Idna] [LawfulIdna] {a : Authority} (h : ProperAuthority scheme a)
    (hspecial : isSpecial scheme = true) : a.host.render.toList ≠ [] := by
  intro hempty
  have hread : Host.readAs (isSpecial scheme) a.host.render.toList = .ok a.host := h.host.read
  rw [hempty, hspecial, Host.readAs, if_pos rfl, Host.read_nil] at hread
  cases hread

theorem at_not_mem [Idna] {a : Authority} (h : ProperAuthority scheme a) :
    '@' ∉ a.host.render.toList ++ marked ':' (portText a) := by
  rw [List.mem_append]
  rintro (hmem | hmem)
  · exact (isAuthorityChar_of_written h.host.written _ hmem).2 rfl
  · have hport := @isDigit_of_mem_portText a '@'
    cases htext : portText a with
    | none => simp [htext, marked] at hmem
    | some digits =>
        rw [htext] at hport hmem
        rcases List.mem_cons.mp hmem with hmem | hmem
        · exact absurd hmem (by decide)
        · exact absurd (hport hmem) (by decide)

/-- An authority is read as what it was. -/
theorem authorityOf_render [Idna] [LawfulIdna] {a : Authority} (h : ProperAuthority scheme a) :
    authorityOf scheme followed (Authority.render a).toList = .ok a := by
  have hcut : cutUser (Authority.render a).toList =
      (userText a, a.host.render.toList ++ marked ':' (portText a)) := by
    rw [toList_render_authority]
    cases userText a with
    | none => exact cutUser_none (at_not_mem h)
    | some cs =>
        have := cutUser_some (at_not_mem h) cs
        simpa using this
  have hport : cutPort false (a.host.render.toList ++ marked ':' (portText a)) =
      (a.host.render.toList, portText a) := by
    rw [cutPort_written h.host.written]
    cases portText a <;> simp [marked, cutPort]
  rw [authorityOf_eq, hcut, hport, authorityFrom_eq_ok_iff]
  refine ⟨?_, ?_, userOf_userText h, h.host.read, ?_, ?_⟩
  · rintro ⟨huser, -⟩
    exact userText_ne_nil a huser
  · exact fun hempty => Bool.eq_false_iff.mpr fun hspecial => host_ne_nil h hspecial hempty
  · intro hempty
    obtain ⟨hport, huser⟩ := h.empty hempty
    exact ⟨by rw [portText, hport]; rfl, huser⟩
  · cases hport : a.port with
    | none => rw [portText, hport]; rfl
    | some n =>
        obtain ⟨hle, husual⟩ := h.port n hport
        rw [portText, hport]
        exact portOf_decimalDigits hle husual

theorem isAuthorityChar_of_mem_userText [Idna] {a : Authority} (h : ProperAuthority scheme a)
    {c : Char} (hc : c ∈ (userText a).getD []) : isAuthorityChar c = true := by
  unfold userText at hc
  split at hc
  next => simp at hc
  next =>
    rw [Option.getD_some, List.mem_append] at hc
    rcases hc with hc | hc
    · exact isAuthorityChar_of_plainInUser (h.username c hc)
    · split at hc
      next => simp [marked] at hc
      next =>
        rcases List.mem_cons.mp hc with rfl | hc
        · decide
        · exact isAuthorityChar_of_plainInUser (h.password c hc)

theorem isAuthorityChar_of_mem_render [Idna] {a : Authority} (h : ProperAuthority scheme a) :
    ∀ c ∈ (Authority.render a).toList, isAuthorityChar c = true := by
  intro c hc
  have huser := @isAuthorityChar_of_mem_userText scheme _ a h c
  have hport := @isDigit_of_mem_portText a c
  rw [toList_render_authority, List.mem_append, List.mem_append] at hc
  rcases hc with hc | hc | hc
  · cases htext : userText a with
    | none => simp [htext] at hc
    | some cs =>
        rw [htext] at hc huser
        rcases List.mem_append.mp hc with hc | hc
        · exact huser hc
        · rw [List.mem_singleton.mp hc]
          decide
  · exact (isAuthorityChar_of_written h.host.written c hc).1
  · cases htext : portText a with
    | none => simp [htext, marked] at hc
    | some digits =>
        rw [htext] at hc hport
        rcases List.mem_cons.mp hc with rfl | hc
        · decide
        · exact (isAuthorityChar_of_isBare (Host.isNameChar_of_isDigit (hport hc)).bare).1

theorem render_ne_nil [Idna] [LawfulIdna] {a : Authority} (h : ProperAuthority scheme a)
    (hspecial : isSpecial scheme = true) : (Authority.render a).toList ≠ [] := by
  rw [toList_render_authority]
  simp [host_ne_nil h hspecial]

end Conformance.Url
