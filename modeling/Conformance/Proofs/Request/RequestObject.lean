import Conformance.Proofs.Json.Reading
import Conformance.Proofs.Text.Base64
import Conformance.Proofs.Text.Split
import Conformance.Request.Claims

/-!
# Reading back request objects

A request object is cut at its dots into a header, a payload and an empty signature, and each of the two
is read back from base64 and then from JSON (`requestObject_reads_back`). The characters of the alphabet
for URLs have no dot among them, and the text of the payload is read back whatever the claims hold. So a
request object tells the claims that it asks for.
-/

namespace Conformance.Claims

open Json (value_bool value_object value_string)

/-- The claims that a request object tells. -/
def requestedNames : List String := ["aud", "consentId", "iss", "redirect_url", "scope"]

theorem requestPayload_reads (claims : KeyMap String) :
    Json.Reads Json.Draft.value 4 (requestPayload claims) (requestPayload claims) := by
  have hnames : ["aud", "claims", "iss", "redirect_uri", "scope"].Pairwise (· < ·) := by decide
  have hclaim : ["essential", "value"].Pairwise (· < ·) := by decide
  refine value_object hnames ?_
  simp only [List.forall_mem_cons, List.not_mem_nil, false_implies, implies_true, and_true]
  refine ⟨value_string _, ?_, value_string _, value_string _, value_string _⟩
  refine value_object (List.pairwise_singleton ..) (List.forall_mem_singleton.mpr ?_)
  refine value_object (List.pairwise_singleton ..) (List.forall_mem_singleton.mpr ?_)
  refine value_object hclaim ?_
  simp only [List.forall_mem_cons, List.not_mem_nil, false_implies, implies_true, and_true]
  exact ⟨value_bool true, value_string _⟩

theorem parse_requestPayload (claims : KeyMap String) :
    Json.parse? (requestPayload claims).render = some (requestPayload claims) := by
  rw [Json.parse?, Json.parse_render (requestPayload_reads claims) (by decide)]
  rfl

theorem render_unsignedHeader : unsignedHeader.render = "\x7b\"alg\":\"none\"\x7d" := by
  decide +kernel

/-- Texts in base64 are cut at the dots behind them. -/
theorem splitOn_ofText (header payload : String) :
    Text.splitOn '.' (Text.Base64.ofText header ++ "." ++ Text.Base64.ofText payload ++ ".").toList =
      [(Text.Base64.ofText header).toList, (Text.Base64.ofText payload).toList, []] := by
  have hparts : ∀ part ∈ [(Text.Base64.ofText header).toList, (Text.Base64.ofText payload).toList, []],
      '.' ∉ part := by
    simp [Text.Base64.dot_not_mem_ofText]
  rw [← Text.splitOn_intercalate hparts (by simp)]
  simp

/-- A request object is cut at its dots into what it was made of. -/
theorem splitOn_requestObject (claims : KeyMap String) :
    Text.splitOn '.' (requestObject claims).toList =
      [(Text.Base64.ofText unsignedHeader.render).toList,
        (Text.Base64.ofText (requestPayload claims).render).toList, []] :=
  splitOn_ofText unsignedHeader.render (requestPayload claims).render

theorem requestPayload_eq_iff {claims claims' : KeyMap String} :
    requestPayload claims = requestPayload claims' ↔
      ∀ name ∈ requestedNames, (claims.get? name).getD "" = (claims'.get? name).getD "" := by
  simp [requestPayload, requestedNames, claim]

theorem requestObject_eq_iff {claims claims' : KeyMap String} :
    requestObject claims = requestObject claims' ↔
      ∀ name ∈ requestedNames, (claims.get? name).getD "" = (claims'.get? name).getD "" := by
  rw [← requestPayload_eq_iff]
  constructor
  · intro h
    have hcut := splitOn_requestObject claims
    rw [h, splitOn_requestObject claims'] at hcut
    have hpayload := congrArg Text.Base64.text? (List.cons.inj (List.cons.inj hcut).2).1
    rw [Text.Base64.text?_ofText, Text.Base64.text?_ofText] at hpayload
    have hparse := parse_requestPayload claims'
    rw [Option.some.inj hpayload, parse_requestPayload claims] at hparse
    exact Option.some.inj hparse
  · intro h
    rw [requestObject, requestObject, h]

/-- **Request objects are read back.** Whatever the texts of the claims, a request object consists of a
header, a payload and no signature. The header says that it is unsigned. The payload is the object with
the texts of five claims, those that are not there being empty. Two request objects are the same exactly
if these texts are. -/
theorem requestObject_reads_back (claims claims' : KeyMap String) :
    (∃ header payload, Text.splitOn '.' (requestObject claims).toList = [header, payload, []] ∧
      Text.Base64.text? header = some "\x7b\"alg\":\"none\"\x7d" ∧
      (Text.Base64.text? payload).bind Json.parse? = some (.object
        [("aud", .string ((claims.get? "aud").getD "")),
          ("claims", .object [("id_token", .object [("openbanking_intent_id", .object
            [("essential", .bool true), ("value", .string ((claims.get? "consentId").getD ""))])])]),
          ("iss", .string ((claims.get? "iss").getD "")),
          ("redirect_uri", .string ((claims.get? "redirect_url").getD "")),
          ("scope", .string ((claims.get? "scope").getD ""))])) ∧
      (requestObject claims = requestObject claims' ↔
        ∀ name ∈ requestedNames, (claims.get? name).getD "" = (claims'.get? name).getD "") := by
  refine ⟨⟨(Text.Base64.ofText unsignedHeader.render).toList,
    (Text.Base64.ofText (requestPayload claims).render).toList, splitOn_requestObject claims, ?_, ?_⟩,
    requestObject_eq_iff⟩
  · rw [Text.Base64.text?_ofText, render_unsignedHeader]
  · rw [Text.Base64.text?_ofText, Option.bind_some, parse_requestPayload]
    rfl

/-- Claims with quotes, a backslash, a line break and letters that are not ASCII. One of the five is not
there. -/
def quotedClaims : KeyMap String :=
  KeyMap.ofList [("aud", "https://as.example/\"x\""), ("consentId", "aac\\7\nü"), ("iss", "tpp-日本"),
    ("scope", "openid"), ("state", "s-1")]

/-- Each text is read back as it was, and the one that is not there as an empty one. -/
theorem quotedClaims_requested :
    (∃ header payload, Text.splitOn '.' (requestObject quotedClaims).toList = [header, payload, []] ∧
        Text.Base64.text? header = some "\x7b\"alg\":\"none\"\x7d" ∧
        (Text.Base64.text? payload).bind Json.parse? = some (.object
          [("aud", .string "https://as.example/\"x\""),
            ("claims", .object [("id_token", .object [("openbanking_intent_id", .object
              [("essential", .bool true), ("value", .string "aac\\7\nü")])])]),
            ("iss", .string "tpp-日本"), ("redirect_uri", .string ""),
            ("scope", .string "openid")])) ∧
      requestObject quotedClaims ≠ requestObject .empty := by
  obtain ⟨hreads, hiff⟩ := requestObject_reads_back quotedClaims .empty
  refine ⟨hreads, fun hsame => ?_⟩
  exact absurd (hiff.mp hsame "iss" (by decide)) (by decide)

end Conformance.Claims
