import Conformance.Proofs.KeyMap
import Conformance.Proofs.Url.Form
import Conformance.Request.Prepare

/-!
# Forms of requests

The form of a request is read back as the pairs that it was made of, in the order of their keys
(`formBody_reads_back`). So nothing of the pairs is lost, and what separates pairs, keys and values in
a form may stand in any of them.
-/

namespace Conformance.PreparedRequest

theorem formData_eq_empty_iff {r : PreparedRequest} :
    r.formData.isEmpty = true ↔ r.formData = .empty := by
  rw [KeyMap.isEmpty, List.isEmpty_iff]
  constructor
  · intro h
    exact KeyMap.ext_entries h
  · intro h
    rw [h]
    rfl

theorem formBody?_eq (r : PreparedRequest) :
    r.formBody? = if r.formData = .empty then none else some (Form.encode r.formData.entries) := by
  rw [formBody?]
  exact if_congr formData_eq_empty_iff rfl rfl

theorem decode_formBody (r : PreparedRequest) : r.formBody?.map Form.decode =
    if r.formData = .empty then none else some r.formData.entries := by
  rw [formBody?_eq]
  split
  · rfl
  · rw [Option.map_some, Form.decode_encode]

/-- **Forms are read back.** A request has no form exactly if it has no pairs for one. Otherwise its
form is read as the entries of the pairs, in the order of their keys. Two requests have the same form
exactly if they have the same pairs. -/
theorem formBody_reads_back (r r' : PreparedRequest) :
    (r.formBody? = none ↔ r.formData = .empty) ∧
      (r.formBody?.map Form.decode =
        if r.formData = .empty then none else some r.formData.entries) ∧
      (r.formBody? = r'.formBody? ↔ r.formData = r'.formData) := by
  refine ⟨?_, decode_formBody r, ?_, ?_⟩
  · rw [formBody?_eq]
    split <;> simp [*]
  · intro h
    have hread : r.formBody?.map Form.decode = r'.formBody?.map Form.decode := by rw [h]
    rw [decode_formBody, decode_formBody] at hread
    split at hread <;> split at hread
    next hnone hnone' => rw [hnone, hnone']
    next => cases hread
    next => cases hread
    next => exact KeyMap.ext_entries (Option.some.inj hread)
  · intro h
    rw [formBody?_eq, formBody?_eq, h]

end Conformance.PreparedRequest
