import Conformance.Proofs.Redaction.Queries
import Conformance.Proofs.Redaction.Secrecy
import Conformance.Proofs.Url.Form
import Conformance.Request.Prepare

/-!
# What a logged form shows

A form is logged as a query: its keys are judged as they are written, and not as they were given, as
the keys of headers and documents are. `redactQuery_form` says what is shown, and that both
judgements agree where the fragment is written as it is (`writtenAsIs`, as the fragments that are
always masked are) and the key has no letter from beyond ASCII with a lower-case form in it. In
general they do not: a space is written as a plus sign, and the Kelvin sign in percent-encoding
(`misjudgedForms_shown`).
-/

namespace Conformance.Redaction

open Form (encodePart isAlphanum_iff isPlain toNat_of_isPlain)
open Text (asciiLower lowercaseFrom lowersToAscii)

variable {fragments : List String}

/-! ## Names as they are written -/

/-- A character stands for itself in a form if its lower-case form in ASCII does. -/
theorem isPlain_of_asciiLower {c : Char} (h : isPlain (asciiLower c) = true) : isPlain c = true := by
  unfold asciiLower at h
  split at h
  next hupper =>
    rw [Bool.and_eq_true, decide_eq_true_eq, decide_eq_true_eq] at hupper
    have hletter : c.isAlphanum = true := isAlphanum_iff.mpr (.inl (.inl hupper))
    simp only [isPlain, hletter, Bool.true_or]
  next => exact h

theorem ascii_of_mem_encodePart {cs : List Char} {c : Char} (h : c ∈ encodePart cs) :
    c.toNat < 0x80 := by
  rcases Form.mem_encodePart h with hplain | rfl | rfl
  · exact (toNat_of_isPlain hplain).2
  · decide
  · decide

/-- A character becomes one character where it stands. If that one stands for itself in a form, a
written key has it in the same place. -/
theorem lowercaseFrom_cons_plain {c : Char} (h : lowersToAscii c = false)
    (before rest : List Char) : ∃ x,
      lowercaseFrom before (c :: rest) = x :: lowercaseFrom (c :: before) rest ∧
        (isPlain x = true → (encodePart (c :: rest)).map asciiLower =
          x :: (encodePart rest).map asciiLower) := by
  obtain ⟨x, hx, hascii⟩ := Text.lowercaseFrom_cons_ascii h before rest
  refine ⟨x, hx, fun hplain => ?_⟩
  obtain ⟨hpos, hlt⟩ := toNat_of_isPlain hplain
  obtain ⟨-, rfl⟩ := hascii hpos hlt
  rw [Form.encodePart_cons, Form.encodePart_plain (isPlain_of_asciiLower hplain)]
  rfl

section

variable {part : List Char} (hpart : ∀ a ∈ part, isPlain a = true)
include hpart

theorem prefix_encodePart {key : List Char} (hkey : ∀ c ∈ key, lowersToAscii c = false)
    {before : List Char} (h : part <+: lowercaseFrom before key) :
    part <+: (encodePart key).map asciiLower := by
  -- What the key becomes begins with characters of the part, which stand for themselves; so those
  -- of the key do too, and the part is walked along with them.
  induction key generalizing part before with
  | nil => exact h
  | cons c rest ih =>
      obtain ⟨hc, hrest⟩ := List.forall_mem_cons.mp hkey
      obtain ⟨x, hx, hplain⟩ := lowercaseFrom_cons_plain hc before rest
      cases part with
      | nil => exact List.nil_prefix
      | cons a part =>
          obtain ⟨ha, hmore⟩ := List.forall_mem_cons.mp hpart
          rw [hx, List.cons_prefix_cons] at h
          obtain ⟨rfl, h⟩ := h
          rw [hplain ha, List.cons_prefix_cons]
          exact ⟨rfl, ih hmore hrest h⟩

/-- What stands for itself in a form is found in a written name where it is found in the name. -/
theorem infix_encodePart {key : List Char} (hkey : ∀ c ∈ key, lowersToAscii c = false)
    {before : List Char} (h : part <:+: lowercaseFrom before key) :
    part <:+: (encodePart key).map asciiLower := by
  induction key generalizing before with
  | nil => exact h
  | cons c rest ih =>
      obtain ⟨hc, hrest⟩ := List.forall_mem_cons.mp hkey
      obtain ⟨x, hx, -⟩ := lowercaseFrom_cons_plain hc before rest
      -- The part begins here, or it is found further on, where `before` has grown by a character.
      rw [hx, List.infix_cons_iff] at h
      rcases h with hfront | hlater
      · rw [← hx] at hfront
        exact (prefix_encodePart hpart hkey hfront).isInfix
      · have hsuffix : (encodePart rest).map asciiLower <:+ (encodePart (c :: rest)).map asciiLower := by
          rw [Form.encodePart_cons, List.map_append]
          exact List.suffix_append _ _
        exact (ih hrest hlater).trans hsuffix.isInfix

end

/-! ## Keys as they are judged -/

/-- Whether a fragment, in lower case, is in a form what it is by itself. -/
def writtenAsIs (fragment : String) : Bool := (Text.lowercase fragment).toList.all isPlain

theorem writtenAsIs_defaultFragments : ∀ f ∈ defaultFragments, writtenAsIs f = true := by
  rw [← List.all_eq_true]
  decide +kernel

/-- A key that is sensitive by itself is so as it is written. -/
theorem isSensitive_encodePart {f key : String} (hf : f ∈ fragments) (hwritten : writtenAsIs f = true)
    (hkey : ∀ c ∈ key.toList, lowersToAscii c = false) (h : isSensitive [f] key = true) :
    isSensitive fragments (String.ofList (encodePart key.toList)) = true := by
  obtain ⟨f', hf', hpart⟩ := isSensitive_iff_lowercase.mp h
  obtain rfl := List.mem_singleton.mp hf'
  refine isSensitive_iff_lowercase.mpr ⟨f', hf, ?_⟩
  have hlower : (Text.lowercase (String.ofList (encodePart key.toList))).toList =
      (encodePart key.toList).map asciiLower := by
    rw [Text.lowercase, String.toList_ofList, String.toList_ofList,
      Text.lowercaseFrom_ascii fun c hc => ascii_of_mem_encodePart hc]
  have hfound : (Text.lowercase f').toList <:+: lowercaseFrom [] key.toList := by
    rwa [Text.lowercase.eq_1 key, String.toList_ofList] at hpart
  rw [hlower]
  exact infix_encodePart (List.all_eq_true.mp hwritten) hkey hfound

/-! ## Forms -/

/-- What is logged of an entry of a form. -/
def formPair (fragments : List String) (entry : String × String) : List Char :=
  encodePart entry.1.toList ++
    '=' :: if isHidden fragments (encodePart entry.1.toList) then mask.toList
      else encodePart entry.2.toList

theorem redactPair_encodePair (entry : String × String) :
    redactPair fragments (Form.encodePair entry) = formPair fragments entry := by
  rw [Form.encodePair, redactPair_valued (Form.eq_not_mem_encodePart _), formPair]
  split <;> rfl

theorem pairs_formBody {r : PreparedRequest} {form : String} (h : r.formBody? = some form) :
    pairs form = r.formData.entries.map Form.encodePair := by
  rw [PreparedRequest.formBody?, Option.ite_none_left_eq_some] at h
  obtain ⟨hentries, hform⟩ := h
  cases hform
  rw [pairs, Form.encode, String.toList_ofList]
  exact Form.splitOn_encodePairs fun hnil => hentries (by rw [KeyMap.isEmpty, hnil]; rfl)

/-- **Logged forms.** The pairs of a form read as the entries it was made of, and of each entry
there is logged its key and, if the key is hidden as it is written, a mask for its value. An entry
whose key is sensitive by itself is masked if the fragment it holds is written as it is and the key
has no character from beyond ASCII that is ASCII in lower case. -/
theorem redactQuery_form (fragments : List String) (r : PreparedRequest) {form : String}
    (h : r.formBody? = some form) :
    (pairs form).map Form.decodePair = r.formData.entries ∧
      pairs (redactQuery fragments form) = r.formData.entries.map (formPair fragments) ∧
      ∀ entry ∈ r.formData.entries, ∀ f ∈ fragments, writtenAsIs f = true →
        (∀ c ∈ entry.1.toList, lowersToAscii c = false) → isSensitive [f] entry.1 = true →
        formPair fragments entry = encodePart entry.1.toList ++ '=' :: mask.toList := by
  have hpairs := pairs_formBody h
  refine ⟨?_, ?_, ?_⟩
  · rw [hpairs, List.map_map]
    exact (List.map_congr_left fun entry _ => Form.decodePair_encodePair entry).trans
      (List.map_id' _)
  · rw [pairs_redactQuery, hpairs, List.map_map]
    exact List.map_congr_left fun entry _ => redactPair_encodePair entry
  · intro entry _ f hf hwritten hkey hsensitive
    have hhidden : isHidden fragments (encodePart entry.1.toList) = true := by
      rw [isHidden, isSensitive_encodePart hf hwritten hkey hsensitive, Bool.true_or]
    rw [formPair, if_pos hhidden]

/-- A request that sends a form. -/
def formRequest (entries : List (String × String)) : PreparedRequest :=
  { method := "POST", url := "https://aspsp.example/token", headers := .empty,
    formData := .ofList entries, body := none, generated := .empty }

/-- The form by which a client asks for a token. -/
def tokenForm : List (String × String) :=
  [("client_assertion", "eyJhbGciOiJQUzI1NiJ9"), ("grant_type", "client_credentials"),
    ("scope", "accounts openid")]

theorem tokenForm_logged : ∃ form, (formRequest tokenForm).formBody? = some form ∧
    (pairs form).map Form.decodePair = tokenForm ∧
    redactQuery defaultFragments form =
      "client_assertion=[REDACTED]&grant_type=client_credentials&scope=accounts+openid" ∧
    formPair defaultFragments ("client_assertion", "eyJhbGciOiJQUzI1NiJ9") =
      "client_assertion=[REDACTED]".toList := by
  have hbody : (formRequest tokenForm).formBody? = some
      "client_assertion=eyJhbGciOiJQUzI1NiJ9&grant_type=client_credentials&scope=accounts+openid" := by
    decide +kernel
  obtain ⟨hread, hshown, hmasked⟩ := redactQuery_form defaultFragments _ hbody
  have hentries : (formRequest tokenForm).formData.entries = tokenForm := by decide +kernel
  rw [hentries] at hread hshown hmasked
  have hkey : ∀ c ∈ "client_assertion".toList, lowersToAscii c = false := by
    simp [lowersToAscii]
  refine ⟨_, hbody, hread, pairs_inj (hshown.trans (by decide +kernel)), ?_⟩
  rw [hmasked _ List.mem_cons_self "assertion" (by decide)
    (writtenAsIs_defaultFragments _ (by decide)) hkey (by decide +kernel)]
  decide +kernel

/-- Keys that are masked in headers, and whose values are shown in a form. -/
theorem misjudgedForms_shown :
    (redactHeaders ["api key"] (formRequest [("api key", "k-123")]).formData =
        .ofList [("api key", mask)] ∧
      (formRequest [("api key", "k-123")]).formBody?.map (redactQuery ["api key"]) =
        some "api+key=k-123") ∧
    redactHeaders defaultFragments (formRequest [("to\u212Aen", "k-123")]).formData =
        .ofList [("to\u212Aen", mask)] ∧
      (formRequest [("to\u212Aen", "k-123")]).formBody?.map (redactQuery defaultFragments) =
        some "to%E2%84%AAen=k-123" := by
  refine ⟨⟨?_, ?_⟩, ?_, ?_⟩
  all_goals decide +kernel

end Conformance.Redaction
