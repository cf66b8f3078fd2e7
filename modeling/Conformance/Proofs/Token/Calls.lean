import Conformance.Proofs.Token.Grouping
import Conformance.Token.Calls
import Mathlib.Data.List.Basic

/-!
# Calls on a token store

A store that is changed in place. A call to place a need may fail, and what it has done to the store
by then would stay: a name that was made, a group that was touched. `TokenStore.submit` is the call
as it is carried out step by step, on a store that outlives its failure. `submit_on` says that it comes
to the same as placing the need in a store of its own: the check comes before anything is written.

So failed calls leave no trace. `submitEach_without_failed` says it of any number of calls on any store:
take the failed ones out, and the others are answered as before and leave the same groups and the same
number of names.
-/

namespace Conformance

namespace TokenStore

/-! ## One call -/

/-- What follows a call is carried out on the store that the call leaves, unless the call fails. -/
theorem Call.bind_on {α β : Type} (call : Call α) (next : α → Call β) (s : TokenStore) :
    (call >>= next).on s = match call.on s with
      | (.ok a, s) => (next a).on s
      | (.error e, s) => (.error e, s) := by
  simp only [Call.on, ExceptT.run, StateT.run, bind, ExceptT.bind, ExceptT.mk, StateT.bind]
  rcases call s with ⟨_ | _, _⟩ <;> rfl

theorem refuseConflict_on (n : PermissionNeed) (s : TokenStore) :
    (refuseConflict n).on s =
      (if n.conflicts.isEmpty then .ok () else .error (.selfConflict n.id n.conflicts), s) := by
  unfold refuseConflict
  split <;> rfl

/-- A group of its own takes a name and nothing else. -/
theorem startGroup_on (n : PermissionNeed) (s : TokenStore) :
    (startGroup n).on s = (.ok (), s.create n) := rfl

/-- A call comes to the same as placing the need in a store of its own, and if it fails the store is
as it was before: the check comes before anything is written. -/
theorem submit_on (n : PermissionNeed) (s : TokenStore) :
    (submit n).on s = match s.add n with
      | .ok placed => (.ok (), placed)
      | .error e => (.error e, s) := by
  rw [submit, Call.bind_on, refuseConflict_on, add]
  by_cases hn : n.conflicts.isEmpty = true
  · have hget : (get : Call TokenStore).on s = (.ok s, s) := rfl
    rw [if_pos hn, if_pos hn]
    simp only [Call.bind_on, hget]
    rcases place_cases s n with ⟨g, hg, -, hplace⟩ | ⟨-, hslot, hplace⟩
    · rw [hg, hplace]
      rfl
    · have hnone : s.groups[s.slot n]? = none :=
        List.getElem?_eq_none (Nat.le_of_eq hslot.symm)
      rw [hnone, hplace]
      exact startGroup_on n s
  · rw [if_neg hn, if_neg hn]

/-- What is the right answer to a need: a failure exactly if one code is required and excluded both,
and then all such codes in the order in which they are required. -/
structure AnswersTo (n : PermissionNeed) (answer : Except PermissionError Unit) : Prop where
  /-- The need is refused if it contradicts itself, and otherwise it is placed. -/
  fails_iff : (∃ e, answer = .error e) ↔ ∃ c, c ∈ n.required ∧ c ∈ n.excluded
  /-- A refusal lists every place at which the need requires what it excludes, and no other. -/
  lists : ∀ e, answer = .error e → ∃ shared, e = .selfConflict n.id shared ∧
    shared.Sublist n.required ∧
    ∀ c, shared.count c = if c ∈ n.excluded then n.required.count c else 0

theorem count_conflicts (n : PermissionNeed) (c : String) :
    n.conflicts.count c = if c ∈ n.excluded then n.required.count c else 0 := by
  unfold PermissionNeed.conflicts
  split
  next hc => exact List.count_filter (by simpa using hc)
  next hc => exact List.count_eq_zero.mpr fun hmem => hc (by simpa using (List.mem_filter.mp hmem).2)

theorem answersTo_submit (n : PermissionNeed) (s : TokenStore) :
    AnswersTo n ((submit n).on s).1 := by
  rw [submit_on]
  by_cases hn : n.SelfConflicting
  · rw [add_of_selfConflicting hn]
    refine ⟨⟨fun _ => hn, fun _ => ⟨_, rfl⟩⟩, fun e he => ?_⟩
    cases he
    exact ⟨n.conflicts, rfl, List.filter_sublist, count_conflicts n⟩
  · rw [add_of_not_selfConflicting hn]
    refine ⟨⟨?_, fun h => absurd h hn⟩, fun e he => by cases he⟩
    rintro ⟨e, he⟩
    cases he

/-! ## Calls in a row -/

/-- The needs whose calls have not failed. -/
def accepted (needs : List PermissionNeed) (answers : List (Except PermissionError Unit)) :
    List PermissionNeed :=
  ((needs.zip answers).filter fun p => p.2.isOk).map (·.1)

theorem answersTo_submitEach (needs : List PermissionNeed) (s : TokenStore) :
    List.Forall₂ AnswersTo needs (submitEach needs s).1 := by
  induction needs generalizing s with
  | nil => exact .nil
  | cons n rest ih => exact .cons (answersTo_submit n s) (ih _)

/-- Without the calls that have failed, the others have the same answers and leave the same store. -/
theorem submitEach_accepted (needs : List PermissionNeed) (s : TokenStore) :
    submitEach (accepted needs (submitEach needs s).1) s =
      ((accepted needs (submitEach needs s).1).map fun _ => .ok (), (submitEach needs s).2) := by
  induction needs generalizing s with
  | nil => rfl
  | cons n rest ih =>
      by_cases hn : n.SelfConflicting
      · have hcall : (submit n).on s = (.error (.selfConflict n.id n.conflicts), s) := by
          rw [submit_on, add_of_selfConflicting hn]
        have hdropped : accepted (n :: rest) (submitEach (n :: rest) s).1 =
            accepted rest (submitEach rest s).1 := by
          simp [accepted, submitEach, hcall, Except.isOk, Except.toBool]
        rw [hdropped, ih]
        simp [submitEach, hcall]
      · have hcall : (submit n).on s = (.ok (), s.place n) := by
          rw [submit_on, add_of_not_selfConflicting hn]
        have hkept : accepted (n :: rest) (submitEach (n :: rest) s).1 =
            n :: accepted rest (submitEach rest (s.place n)).1 := by
          simp [accepted, submitEach, hcall, Except.isOk, Except.toBool]
        rw [hkept]
        simp [submitEach, hcall, ih]

/-- **Failed calls leave no trace.** On every store, a call to place a need fails exactly if one code
is required and excluded both, names all such codes in the order in which they are required, and leaves
the groups and the number of names as they were; one that succeeds leaves the store with the need
placed. So of calls in a row, each answered in this way, those that fail might as well not have been
made: without them no other one fails, and the same groups and number of names are left. -/
theorem submitEach_without_failed (s : TokenStore) :
    (∀ n, AnswersTo n ((submit n).on s).1 ∧
      (∀ e, ((submit n).on s).1 = .error e → s.add n = .error e ∧ ((submit n).on s).2 = s) ∧
      (((submit n).on s).1 = .ok () → s.add n = .ok ((submit n).on s).2)) ∧
    ∀ needs, List.Forall₂ AnswersTo needs (submitEach needs s).1 ∧
      submitEach (accepted needs (submitEach needs s).1) s =
        ((accepted needs (submitEach needs s).1).map fun _ => .ok (), (submitEach needs s).2) := by
  refine ⟨fun n => ⟨answersTo_submit n s, ?_⟩, fun needs => ?_⟩
  · rw [submit_on]
    cases s.add n with
    | ok placed => exact ⟨nofun, fun _ => rfl⟩
    | error e =>
        refine ⟨fun e' he => ?_, nofun⟩
        cases he
        exact ⟨rfl, rfl⟩
  · exact ⟨answersTo_submitEach needs s, submitEach_accepted needs s⟩

end TokenStore

end Conformance
