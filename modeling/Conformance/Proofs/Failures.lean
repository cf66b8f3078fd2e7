import Conformance.Expect.Validate
import Conformance.Proofs.Json.Reading
import Conformance.Proofs.Json.Rereading
import Conformance.Result

/-!
# Reading back failures

A failure that validation finds carries the body of the response: its JSON value, or else its text. It
is written as a document, for others to read. `TestCase.validate_restoration` says when the reader sees
what validation recorded. A body that is no JSON always comes back. A body that is JSON has been read
from a text once, so whether it comes back is a matter of reading it again one step further down
(`Json.Rereads`), with one exception: null is written where it stands, but read as the absence of a body.
`nullBody_lost` is such a failure.
-/

namespace Conformance

open Json

theorem Json.Draft.nullable_of_ne_null {α : Type} (read : Draft.Reader α) (depth : Nat) {d : Draft}
    (h : d ≠ .null) : Draft.nullable read depth d = (read depth d).map some := by
  cases d with
  | null => exact absurd rfl h
  | _ => rfl

namespace FailureDetail

/-- The members of a failure with the body of a response. -/
theorem scansAs_toJson {d : FailureDetail} {v : Json} {b : Draft}
    (hbody : d.endpointResponse = some v) (hb : ScansAs v b) :
    ScansAs d.toJson (.object ([(.ok "generalError", .string (.ok d.generalError) none),
      (.ok "endpointResponse", b)] ++
        if d.testCaseMessage = "" then []
        else [(.ok "testCaseMessage", .string (.ok d.testCaseMessage) none)]) none) := by
  unfold toJson
  rw [hbody]
  refine scansAs_object (.cons ⟨rfl, scans_string _⟩ (.cons ⟨rfl, hb⟩ ?_))
  unfold Json.unlessBlank
  by_cases hmessage : d.testCaseMessage = ""
  · rw [if_pos hmessage, if_pos (by simp [hmessage])]
    exact .nil
  · rw [if_neg hmessage, if_neg (by simpa using hmessage)]
    exact .cons ⟨rfl, scans_string _⟩ .nil

/-- A failure is read as it was written, but for its body, which is read as one that may be left out. -/
theorem read_toJson {d : FailureDetail} {v : Json} {b : Draft}
    (hbody : d.endpointResponse = some v) (hb : ScansAs v b) :
    Json.read reader d.toJson.render =
      (Draft.nullable Draft.value (Draft.depthLimit - 1) b).map fun o =>
        { d with endpointResponse := o } := by
  obtain ⟨error, body, message⟩ := d
  rw [read_render_eq reader (scansAs_toJson hbody hb)]
  have henter : Draft.enter Draft.depthLimit = .ok (Draft.depthLimit - 1) := rfl
  unfold reader Draft.record Draft.recordOf
  simp only [henter, bind, Except.bind]
  generalize Draft.depthLimit - 1 = depth
  by_cases hmessage : message = ""
  · subst hmessage
    cases hread : Draft.nullable Draft.value depth b <;>
      simp [Draft.recordMembers, Draft.text, bind, Except.bind, pure, Except.pure, hread,
        Except.map, Draft.check, Draft.Field.required, Draft.Field.defaulted]
  · cases hread : Draft.nullable Draft.value depth b <;>
      simp [Draft.recordMembers, Draft.text, bind, Except.bind, pure, Except.pure, hread, hmessage,
        Except.map, Draft.check, Draft.Field.required, Draft.Field.defaulted]

/-- A failure with a body is restored if and only if the body is not null and reads back. -/
theorem read_toJson_eq_iff {d : FailureDetail} {v : Json} (hbody : d.endpointResponse = some v)
    (hv : v.Canonical) : Json.read reader d.toJson.render = .ok d ↔
      v ≠ .null ∧ v.Rereads (Draft.depthLimit - 1) := by
  obtain ⟨b, hb⟩ := exists_drafted hv
  rw [read_toJson hbody hb.scans]
  by_cases hnull : v = .null
  · rw [hb.null_iff.mpr hnull]
    refine iff_of_false (fun h => ?_) fun h => h.1 hnull
    have habsent : { d with endpointResponse := none } = d := Except.ok.inj h
    rw [← habsent] at hbody
    cases hbody
  · rw [Draft.nullable_of_ne_null _ _ (mt hb.null_iff.mp hnull), and_iff_right hnull,
      ← hb.value_iff]
    constructor
    · intro h
      obtain ⟨o, ho, h⟩ := Except.map_eq_ok_iff.mp h
      obtain ⟨v', hv', rfl⟩ := Except.map_eq_ok_iff.mp ho
      rw [← h] at hbody
      rwa [← Option.some.inj hbody]
    · intro h
      rw [h]
      exact congrArg Except.ok (by rw [← hbody])

end FailureDetail

/-- What a failure of a response is read as when it is read back from its text. -/
structure Restoration (response : Response) (d : FailureDetail) : Prop where
  /-- It is restored if and only if the body is no JSON, or else is not null and reads back one step
  further down. -/
  restored_iff : Json.read FailureDetail.reader d.toJson.render = .ok d ↔
    ∀ v, response.json? = some v → v ≠ .null ∧ v.Rereads (Draft.depthLimit - 1)
  /-- If it is read at all, it has the same error and message. -/
  kept : ∀ d', Json.read FailureDetail.reader d.toJson.render = .ok d' →
    d'.generalError = d.generalError ∧ d'.testCaseMessage = d.testCaseMessage
  /-- A body that is null is read as no body. -/
  null_absent : response.json? = some .null →
    Json.read FailureDetail.reader d.toJson.render = .ok { d with endpointResponse := none }

theorem Response.json?_eq_some_iff {r : Response} {v : Json} :
    r.json? = some v ↔ Json.parse r.body = .ok v := by
  unfold json? Json.parse?
  cases Json.parse r.body <;> simp [Except.toOption]

/-- A body for diagnostics is a value as reading makes it. -/
theorem Response.canonical_diagnosticBody (r : Response) : r.diagnosticBody.Canonical := by
  unfold diagnosticBody
  cases hjson : r.json? with
  | none => exact .string r.body
  | some v => exact canonical_parse (json?_eq_some_iff.mp hjson)

/-- **When failures are restored.** A failure that validation finds is written as a document and read
back as it was, unless the body of the response is null, nests as deeply as documents may, or holds a
number that is not read from its own text. -/
theorem TestCase.validate_restoration {t : TestCase} {response : Response} {ctx : Context}
    {schemas : Option SchemaCheck} {d : FailureDetail}
    (h : d ∈ (t.validate response ctx schemas).1) : Restoration response d := by
  obtain ⟨violation, -, rfl⟩ := List.mem_map.mp h
  have hbody : (violation.detail response).endpointResponse = some response.diagnosticBody := rfl
  have hcanonical := response.canonical_diagnosticBody
  obtain ⟨b, hb⟩ := exists_drafted hcanonical
  have hread := FailureDetail.read_toJson hbody hb.scans
  refine ⟨?_, fun d' hd' => ?_, fun hnull => ?_⟩
  · rw [FailureDetail.read_toJson_eq_iff hbody hcanonical, Response.diagnosticBody]
    cases response.json? with
    | none => exact iff_of_true ⟨nofun, .string response.body⟩ nofun
    | some v => simp
  · rw [hread] at hd'
    obtain ⟨o, -, rfl⟩ := Except.map_eq_ok_iff.mp hd'
    exact ⟨rfl, rfl⟩
  · have hb' : b = .null := by
      refine hb.null_iff.mpr ?_
      rw [Response.diagnosticBody, hnull]
      rfl
    rw [hread, hb']
    rfl

/-! ## Two bodies -/

/-- A test case that expects success. -/
def accountsTest : TestCase :=
  { id := "accounts", input := { method := "GET", endpoint := "/accounts" }
    expect := { statusCode := 200 } }

/-- What validation finds when the server fails. -/
def serverFailure (body : String) : FailureDetail :=
  (Violation.status 200 500).detail (.ofBody 500 body)

theorem serverFailure_mem (body : String) :
    serverFailure body ∈ (accountsTest.validate (.ofBody 500 body) .empty none).1 :=
  List.mem_singleton.mpr rfl

theorem serverFailure_restored :
    serverFailure "[\"busy\"]" ∈
        (accountsTest.validate (.ofBody 500 "[\"busy\"]") .empty none).1 ∧
      Restoration (.ofBody 500 "[\"busy\"]") (serverFailure "[\"busy\"]") ∧
      Json.read FailureDetail.reader (serverFailure "[\"busy\"]").toJson.render =
        .ok (serverFailure "[\"busy\"]") := by
  have htext : "[\"busy\"]" = (Json.strings ["busy"]).render := by decide
  have hparse : Json.parse "[\"busy\"]" = .ok (.strings ["busy"]) := by
    rw [htext]
    exact parse_render (value_strings ["busy"]) (Nat.le_add_left 1 126)
  have hbody : (Response.ofBody 500 "[\"busy\"]").json? = some (.strings ["busy"]) :=
    Response.json?_eq_some_iff.mpr hparse
  have hmem := serverFailure_mem "[\"busy\"]"
  refine ⟨hmem, TestCase.validate_restoration hmem,
    (TestCase.validate_restoration hmem).restored_iff.mpr fun v hv => ?_⟩
  rw [hbody] at hv
  cases hv
  exact ⟨nofun, .array (List.forall_mem_singleton.mpr (.string "busy"))⟩

/-- Not every failure is restored: of this one the reader sees that there was no body, when it was
null. -/
theorem nullBody_lost :
    serverFailure "null" ∈ (accountsTest.validate (.ofBody 500 "null") .empty none).1 ∧
      (serverFailure "null").endpointResponse = some .null ∧
      Json.read FailureDetail.reader (serverFailure "null").toJson.render =
        .ok { serverFailure "null" with endpointResponse := none } ∧
      Json.read FailureDetail.reader (serverFailure "null").toJson.render ≠
        .ok (serverFailure "null") := by
  have hbody : (serverFailure "null").endpointResponse = some .null := rfl
  have hread := FailureDetail.read_toJson hbody scans_null
  refine ⟨serverFailure_mem "null", hbody, hread, fun hrestored => ?_⟩
  have habsent : (none : Option Json) = some .null :=
    congrArg FailureDetail.endpointResponse (Except.ok.inj (hread.symm.trans hrestored))
  cases habsent

end Conformance
