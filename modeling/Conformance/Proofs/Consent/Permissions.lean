import Conformance.Component.Providers
import Conformance.Consent.Flow
import Conformance.Proofs.Context
import Conformance.Proofs.Json.Length
import Conformance.Proofs.Template
import Conformance.Token.Requirement

/-!
# Permissions as they are asked for

The permissions of a token stand in the body of a consent request as an array of strings, each code put
between quotation marks as it is. The array is read as the codes exactly if none of them has a character
that needs an escape, and the same is true of the body (`permissionList_read_iff`). A code that ends its
own string asks for other permissions (`joinedCodes_misread`).
-/

namespace Conformance

open Json (isBareText leastLength)

/-! ## The list -/

theorem permissionList_cons_cons (code next : String) (rest : List String) :
    permissionList (code :: next :: rest) =
      "\"" ++ code ++ "\"" ++ "," ++ permissionList (next :: rest) := by
  simp [permissionList, Text.join, String.intercalate_cons_cons]

/-- The list has the length that the array calls for. -/
theorem itemLengths_codes (codes : List String) :
    max 1 (Json.itemLengths (codes.map .string)) = (permissionList codes).length + 1 := by
  have hmarks : "\"".length = 1 ∧ ",".length = 1 := ⟨rfl, rfl⟩
  induction codes with
  | nil => rfl
  | cons code rest ih =>
      cases rest with
      | nil =>
          simp only [permissionList, Text.join, List.map_cons, List.map_nil,
            String.intercalate_singleton, Json.itemLengths, leastLength, String.length_append]
          omega
      | cons next rest =>
          rw [permissionList_cons_cons]
          simp only [List.map_cons, Json.itemLengths, leastLength, String.length_append] at ih ⊢
          omega

/-- Codes that need no escape are written as strings are. -/
theorem itemChars_codes {codes : List String} (h : ∀ code ∈ codes, isBareText code = true) :
    Json.itemChars (codes.map .string) = (permissionList codes).toList ++ [']'] := by
  induction codes with
  | nil => rfl
  | cons code rest ih =>
      obtain ⟨hcode, hrest⟩ := List.forall_mem_cons.mp h
      have hchars : (Json.string code).chars = '"' :: (code.toList ++ ['"']) :=
        Json.quoteChars_bare hcode
      cases rest with
      | nil => simp [permissionList, Text.join, Json.itemChars, hchars]
      | cons next rest =>
          rw [permissionList_cons_cons, List.map_cons, List.map_cons, Json.itemChars_cons_cons,
            hchars, ← List.map_cons, ih hrest]
          simp

theorem length_bracketed (codes : List String) :
    leastLength (.strings codes) = ("[" ++ permissionList codes ++ "]").length := by
  have hbrackets : "[".length = 1 ∧ "]".length = 1 := ⟨rfl, rfl⟩
  rw [Json.strings, leastLength, itemLengths_codes, String.length_append, String.length_append]
  omega

theorem render_codes {codes : List String} (h : ∀ code ∈ codes, isBareText code = true) :
    (Json.strings codes).render = "[" ++ permissionList codes ++ "]" := by
  have hchars : (Json.strings codes).chars = '[' :: Json.itemChars (codes.map .string) := rfl
  apply String.toList_injective
  rw [Json.render, String.toList_ofList, hchars, itemChars_codes h]
  simp

theorem texts_codes (codes : List String) : Json.texts (.strings codes) = codes := by
  rw [Json.strings, Json.texts]
  induction codes with
  | nil => rfl
  | cons code rest ih =>
      rw [List.map_cons, Json.itemTexts, ih]
      rfl

/-- The list in brackets is read as the codes exactly if none of them needs an escape. -/
theorem parse_bracketed_iff (codes : List String) :
    Json.parse ("[" ++ permissionList codes ++ "]") = .ok (.strings codes) ↔
      ∀ code ∈ codes, isBareText code = true := by
  constructor
  · intro h
    have hbare := (Json.tight_parse h).2 (length_bracketed codes)
    rwa [texts_codes] at hbare
  · intro h
    rw [← render_codes h]
    have hreads : Json.Reads Json.Draft.value 1 (.strings codes) (.strings codes) :=
      Json.value_strings codes
    exact Json.parse_render hreads (by decide)

/-! ## The body -/

/-- The dates between which transactions are asked for, with their names. -/
def bodyDates : List (String × Json) :=
  [("TransactionFromDateTime", .string "2016-01-01T10:40:00+02:00"),
    ("TransactionToDateTime", .string "2025-12-31T10:40:00+02:00")]

/-- What a consent request with permissions says. -/
def consentBody (codes : List String) : Json :=
  .object [("Data", .object (("Permissions", .strings codes) :: bodyDates)), ("Risk", .object [])]

/-- What stands in its body in front of the permissions. -/
def bodyFront : String := "\x7b\"Data\":\x7b\"Permissions\":"

/-- What stands behind them. -/
def bodyBack : String :=
  ",\"TransactionFromDateTime\":\"2016-01-01T10:40:00+02:00\"," ++
    "\"TransactionToDateTime\":\"2025-12-31T10:40:00+02:00\"\x7d,\"Risk\":\x7b\x7d\x7d"

theorem toList_bodyFront : bodyFront.toList = '\x7b' :: (Json.quoteChars "Data".toList ++
    ':' :: '\x7b' :: (Json.quoteChars "Permissions".toList ++ [':'])) := by
  decide +kernel

theorem toList_bodyBack : bodyBack.toList =
    ',' :: (Json.memberChars bodyDates ++ ',' :: Json.memberChars [("Risk", .object [])]) := by
  decide +kernel

theorem chars_consentBody (codes : List String) : (consentBody codes).chars =
    bodyFront.toList ++ (Json.strings codes).chars ++ bodyBack.toList := by
  have hchars : (consentBody codes).chars = '\x7b' :: (Json.quoteChars "Data".toList ++ ':' ::
      (('\x7b' :: (Json.quoteChars "Permissions".toList ++ ':' ::
        ((Json.strings codes).chars ++ ',' :: Json.memberChars bodyDates))) ++
          ',' :: Json.memberChars [("Risk", .object [])])) := rfl
  rw [hchars, toList_bodyFront, toList_bodyBack]
  simp only [List.cons_append, List.append_assoc, List.nil_append]

theorem length_consentBody (codes : List String) : leastLength (consentBody codes) =
    (bodyFront ++ ("[" ++ permissionList codes ++ "]") ++ bodyBack).length := by
  have hfront : bodyFront.length = 23 := by decide +kernel
  have hback : bodyBack.length = 118 := by decide +kernel
  have hdates : Json.memberLengths bodyDates = 106 := by decide +kernel
  have hlist := length_bracketed codes
  rw [String.length_append, String.length_append, ← hlist, hfront, hback]
  have hnames : "Data".length = 4 ∧ "Permissions".length = 11 ∧ "Risk".length = 4 := ⟨rfl, rfl, rfl⟩
  simp only [consentBody, leastLength, Json.memberLengths, hdates, hnames]
  omega

/-- The body is read as the codes' exactly if none of the codes needs an escape. -/
theorem parse_body_iff (codes : List String) :
    Json.parse (bodyFront ++ ("[" ++ permissionList codes ++ "]") ++ bodyBack) =
        .ok (consentBody codes) ↔
      ∀ code ∈ codes, isBareText code = true := by
  constructor
  · intro h code hcode
    refine (Json.tight_parse h).2 (length_consentBody codes) code ?_
    refine Json.mem_memberTexts.mpr ⟨_, List.mem_cons_self, .inr ?_⟩
    refine Json.mem_memberTexts.mpr ⟨_, List.mem_cons_self, .inr ?_⟩
    rwa [texts_codes]
  · intro h
    have hrender : (consentBody codes).render =
        bodyFront ++ ("[" ++ permissionList codes ++ "]") ++ bodyBack := by
      apply String.toList_injective
      rw [← render_codes h, Json.render, Json.render, String.toList_ofList, chars_consentBody]
      simp
    rw [← hrender]
    suffices hreads : Json.Reads Json.Draft.value 3 (consentBody codes) (consentBody codes) from
      Json.parse_render hreads (by decide)
    have hnames : ["Data", "Risk"].Pairwise (· < ·) := by decide
    have hdata : ["Permissions", "TransactionFromDateTime", "TransactionToDateTime"].Pairwise
      (· < ·) := by decide
    refine Json.value_object hnames ?_
    simp only [List.forall_mem_cons, List.not_mem_nil, false_implies, implies_true, and_true]
    refine ⟨Json.value_object hdata ?_, Json.value_object .nil nofun⟩
    simp only [bodyDates, List.forall_mem_cons, List.not_mem_nil, false_implies, implies_true,
      and_true]
    exact ⟨Json.value_strings codes, Json.value_string _, Json.value_string _⟩

theorem bodyData_eq (id : String) (names : List String) :
    (Component.Providers.consentCreation id names).input.bodyData =
      some (bodyFront ++ "[$permission_list]" ++ bodyBack) := by
  have htext : "\x7b\"Data\":\x7b\"Permissions\":[$permission_list]," ++
      "\"TransactionFromDateTime\":\"2016-01-01T10:40:00+02:00\"," ++
      "\"TransactionToDateTime\":\"2025-12-31T10:40:00+02:00\"\x7d,\"Risk\":\x7b\x7d\x7d" =
        bodyFront ++ "[$permission_list]" ++ bodyBack := by
    decide +kernel
  rw [← htext]
  rfl

/-- Permissions in a context are put between what stands around them in the body. -/
theorem expand_body {ctx : Context} {list : String} (mode : Expansion) (id : String)
    (names : List String) (h : ctx.getText Context.permissionListName = .ok list) :
    Template.expandOption ctx mode (Component.Providers.consentCreation id names).input.bodyData =
      .ok (some (bodyFront ++ ("[" ++ list ++ "]") ++ bodyBack)) := by
  have hname : ∀ c ∈ Context.permissionListName.toList, Template.isNameChar c = true :=
    List.all_eq_true.mp (by decide)
  have hend : ∀ c ∈ ("]" ++ bodyBack).toList.head?, Template.isNameChar c = false := by
    rw [String.toList_append]
    rintro c ⟨⟩
    decide
  have hexpand := Template.expand_between mode (bodyFront ++ "[") ("]" ++ bodyBack)
    (by decide +kernel) (by decide) hname (by decide +kernel) hend h
  have htemplate : bodyFront ++ "[$permission_list]" ++ bodyBack =
      bodyFront ++ "[" ++ "$" ++ Context.permissionListName ++ ("]" ++ bodyBack) := by
    decide +kernel
  have hbody : bodyFront ++ "[" ++ list ++ ("]" ++ bodyBack) =
      bodyFront ++ ("[" ++ list ++ "]") ++ bodyBack := by
    simp only [String.append_assoc]
  rw [bodyData_eq, Template.expandOption, htemplate, hexpand, hbody]
  rfl

/-! ## What is asked for -/

/-- **Permissions as they are asked for.** The list of codes, put in brackets, is read as the codes in
their order exactly if every character of theirs stands for itself in a string literal: no quotation
mark, no backslash and no control character. The same is true of the body that the component makes with
the context of a flow for these codes: it is read as the request for them exactly then. -/
theorem permissionList_read_iff (codes : List String) :
    (Json.parse ("[" ++ permissionList codes ++ "]") = .ok (.strings codes) ↔
      ∀ code ∈ codes, isBareText code = true) ∧
    ∀ (d : RunDefinition) (ctx : Context) (tokenName id : String) (names : List String)
      (mode : Expansion), ∃ body,
        Template.expandOption (ConsentFlow.context d (.new tokenName (permissionList codes)) ctx) mode
            (Component.Providers.consentCreation id names).input.bodyData = .ok (some body) ∧
          (Json.parse body = .ok (consentBody codes) ↔ ∀ code ∈ codes, isBareText code = true) := by
  refine ⟨parse_bracketed_iff codes, fun d ctx tokenName id names mode => ?_⟩
  have hlist : (ConsentFlow.context d (.new tokenName (permissionList codes)) ctx).getText
      Context.permissionListName = .ok (permissionList codes) :=
    Context.getText_putText_self ..
  exact ⟨_, expand_body mode id names hlist, parse_body_iff codes⟩

/-- A code that ends its own string is read as two codes, and a code with a line break in it leaves a
text that is not JSON. -/
theorem joinedCodes_misread :
    Json.parse ("[" ++ permissionList ["ReadBalances\",\"ReadPAN"] ++ "]") =
        .ok (.strings ["ReadBalances", "ReadPAN"]) ∧
      Json.parse ("[" ++ permissionList ["ReadBalances\",\"ReadPAN"] ++ "]") ≠
        .ok (.strings ["ReadBalances\",\"ReadPAN"]) ∧
      Json.parse? ("[" ++ permissionList ["Read\nBalances"] ++ "]") = none := by
  have hjoined : permissionList ["ReadBalances\",\"ReadPAN"] =
      permissionList ["ReadBalances", "ReadPAN"] := by
    decide +kernel
  refine ⟨?_, ?_, ?_⟩
  · rw [hjoined, parse_bracketed_iff]
    decide
  · rw [ne_eq, parse_bracketed_iff]
    decide
  · exact Option.isNone_iff_eq_none.mp (by decide +kernel)

end Conformance
