import Conformance.Walk
import Mathlib.Tactic.Basic

/-!
# Walks step by step

What one test case comes to (`TestCase.begin_ok`, `Trial.conclude_pass`), what one step of a walk does
wherever the walk stands, and how many steps a walk can still take (`Walk.steps`): every step leaves
fewer.
-/

namespace Conformance

/-! ## Results of test cases -/

/-- Whether a result is that of a test case. -/
def TestResult.Of (r : TestResult) (t : TestCase) : Prop :=
  r = .ofCase t r.pass r.metrics r.failures

theorem TestCase.begin_error [Idna] {t : TestCase} {ctx : Context} {r : TestResult}
    (h : t.begin ctx = .error r) : r.Of t ∧ r.pass = false := by
  unfold TestCase.begin at h
  split at h <;> cases h
  exact ⟨rfl, rfl⟩

/-- What is known of a test case whose request is to be answered. -/
theorem TestCase.begin_ok [Idna] {t : TestCase} {ctx : Context} {trial : Trial}
    (h : t.begin ctx = .ok trial) :
    trial.test = t ∧ t.prepare ctx = .ok (trial.request, trial.ctx) := by
  unfold TestCase.begin at h
  split at h
  · cases h
  next hprepare =>
    cases h
    exact ⟨rfl, hprepare⟩

theorem TestCase.begin_pass_iff [Idna] {t : TestCase} {ctx : Context} {r : TestResult}
    (h : t.begin ctx = .error r) : r.pass = true ↔ r.failures = [] := by
  unfold TestCase.begin at h
  split at h <;> cases h
  exact iff_of_false nofun nofun

theorem Trial.conclude_of (t : Trial) (schemas : Option SchemaCheck) (a : Answer) :
    (t.conclude schemas a).1.Of t.test := by
  cases a with
  | error e => rfl
  | ok x =>
      unfold Trial.conclude
      dsimp only
      split <;> rfl

/-- A test case passes when nothing about it has failed. -/
theorem Trial.conclude_pass_iff (t : Trial) (schemas : Option SchemaCheck) (a : Answer) :
    (t.conclude schemas a).1.pass = true ↔ (t.conclude schemas a).1.failures = [] := by
  cases a with
  | error e => exact iff_of_false nofun nofun
  | ok x =>
      unfold Trial.conclude
      dsimp only
      split
      · exact iff_of_true rfl rfl
      next hfound => exact iff_of_false nofun fun hnone => hfound (List.isEmpty_iff.mpr hnone)

/-- A test case passes when its request is answered and nothing violates its expectations; its
extractions then give the context after it. -/
theorem Trial.conclude_pass {t : Trial} {schemas : Option SchemaCheck} {a : Answer}
    (h : (t.conclude schemas a).1.pass = true) :
    ∃ x, a = .ok x ∧
      Expect.extract x.response x.response.json? t.test.expect.extractions t.ctx =
        ([], (t.conclude schemas a).2) := by
  cases a with
  | error e => cases h
  | ok x =>
      refine ⟨x, rfl, ?_⟩
      unfold Trial.conclude TestCase.validate Expect.validate at h ⊢
      dsimp only at h ⊢
      by_cases hfound : (t.test.expect.violations x.response t.ctx schemas).isEmpty = true
      · rw [if_pos hfound] at h ⊢
        cases hextract : Expect.extract x.response x.response.json? t.test.expect.extractions t.ctx
          with
        | mk others ctx =>
            rw [hextract] at h
            cases others with
            | nil => rfl
            | cons v rest => cases h
      · rw [if_neg hfound] at h
        cases hlist : t.test.expect.violations x.response t.ctx schemas with
        | nil => exact absurd (by rw [hlist]; rfl) hfound
        | cons v rest =>
            rw [hlist] at h
            cases h

namespace Walk

/-! ## One step of a walk -/

variable {w : Walk} {test : TestCase} {rest : List TestCase} {trial : Trial}

theorem advance_nil [Idna] (h : w.place = .before []) (stopped : Bool) :
    w.advance stopped = (none, { w with place := .ended .completed }) := by
  rw [advance, h]

theorem advance_stopped [Idna] (h : w.place = .before (test :: rest)) :
    w.advance true = (none, { w with place := .ended .stopped }) := by
  rw [advance, h]
  rfl

theorem advance_unprepared [Idna] {result : TestResult} (h : w.place = .before (test :: rest))
    (hbegin : test.begin w.ctx = .error result) :
    w.advance false = (some result, w.leave test result w.ctx rest) := by
  rw [advance, h]
  simp only [hbegin]
  rfl

theorem advance_prepared [Idna] (h : w.place = .before (test :: rest))
    (hbegin : test.begin w.ctx = .ok trial) :
    w.advance false = (none, { w with place := .at trial rest }) := by
  rw [advance, h]
  simp only [hbegin]
  rfl

theorem receive_at (h : w.place = .at trial rest) (schemas : Option SchemaCheck) (a : Answer) :
    w.receive schemas a = (some (trial.conclude schemas a).1,
      w.leave trial.test (trial.conclude schemas a).1 (trial.conclude schemas a).2 rest) := by
  rw [receive, h]

/-- Where a walk goes from a test case that has a result. -/
theorem leave_cases (w : Walk) (test : TestCase) (result : TestResult) (ctx : Context)
    (rest : List TestCase) :
    w.haltsOnFailure = true ∧ result.pass = false ∧
        w.leave test result ctx rest =
          { w with ctx := ctx, place := .ended (.failed test result) } ∨
      (w.haltsOnFailure = true → result.pass = true) ∧
        w.leave test result ctx rest = { w with ctx := ctx, place := .before rest } := by
  unfold leave
  cases w.haltsOnFailure <;> cases result.pass <;> simp

/-- A walk that does not halt on failure goes on. -/
theorem leave_onward (h : w.haltsOnFailure = false) (test : TestCase) (result : TestResult)
    (ctx : Context) (rest : List TestCase) :
    w.leave test result ctx rest = { w with ctx := ctx, place := .before rest } := by
  rcases w.leave_cases test result ctx rest with ⟨hhalts, -, -⟩ | ⟨-, heq⟩
  · rw [h] at hhalts
    cases hhalts
  · exact heq

theorem halts_advance [Idna] (w : Walk) (stopped : Bool) :
    (w.advance stopped).2.haltsOnFailure = w.haltsOnFailure := by
  unfold advance
  split
  · rfl
  · split
    · rfl
    · split <;> rfl
  · rfl

theorem halts_receive (w : Walk) (schemas : Option SchemaCheck) (a : Answer) :
    (w.receive schemas a).2.haltsOnFailure = w.haltsOnFailure := by
  unfold receive
  split <;> rfl

/-! ## Steps that are left -/

/-- How many steps a walk can still take: two for each test case, one to end and one to report. -/
def steps (w : Walk) : Nat :=
  match w.place with
  | .before tests => 2 * tests.length + 2
  | .at _ tests => 2 * tests.length + 3
  | .ended _ => 1

theorem steps_pos (w : Walk) : 0 < w.steps := by
  unfold steps
  split <;> omega

theorem steps_le_remaining (w : Walk) : w.steps ≤ 2 * w.remaining + 2 := by
  unfold steps remaining
  cases w.place <;> dsimp only <;> omega

theorem steps_leave_le (w : Walk) (test : TestCase) (result : TestResult) (ctx : Context)
    (tests : List TestCase) : (w.leave test result ctx tests).steps ≤ 2 * tests.length + 2 := by
  rcases w.leave_cases test result ctx tests with ⟨-, -, h⟩ | ⟨-, h⟩ <;> rw [h] <;> simp [steps]

theorem steps_advance [Idna] {w : Walk} {tests : List TestCase} (h : w.place = .before tests)
    (stopped : Bool) : (w.advance stopped).2.steps < w.steps := by
  have hw : w.steps = 2 * tests.length + 2 := by
    rw [steps, h]
  rw [hw]
  cases tests with
  | nil =>
      rw [advance_nil h]
      exact Nat.one_lt_two
  | cons test rest =>
      rw [List.length_cons]
      cases stopped with
      | true =>
          rw [advance_stopped h]
          exact Nat.lt_add_left _ Nat.one_lt_two
      | false =>
          cases hbegin : test.begin w.ctx with
          | error result =>
              have := w.steps_leave_le test result w.ctx rest
              rw [advance_unprepared h hbegin]
              dsimp only
              omega
          | ok trial =>
              rw [advance_prepared h hbegin]
              dsimp only [steps]
              omega

theorem steps_receive {w : Walk} {trial : Trial} {tests : List TestCase}
    (h : w.place = .at trial tests) (schemas : Option SchemaCheck) (a : Answer) :
    (w.receive schemas a).2.steps < w.steps := by
  have hw : w.steps = 2 * tests.length + 3 := by
    rw [steps, h]
  have := w.steps_leave_le trial.test (trial.conclude schemas a).1
    (trial.conclude schemas a).2 tests
  rw [hw, receive_at h]
  dsimp only
  omega

end Walk

end Conformance
