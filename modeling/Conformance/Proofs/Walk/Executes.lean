import Conformance.Proofs.Walk
import Mathlib.Data.List.Forall2

/-!
# Test cases in a row

What executing test cases one after the other comes to. `Walk.Executes` tells it from the front, test
case by test case, whether they pass or not; `Walk.Passes` tells it for test cases that all pass, with
the contexts that lead from one to the next.
-/

namespace Conformance

/-- A test case passes: its request is prepared with a context, and what its extractions find in the
response makes another context of that one. -/
structure TestCase.Passes [Idna] (t : TestCase) (ctx : Context) (trial : Trial) (x : Exchange)
    (next : Context) : Prop where
  begun : t.begin ctx = .ok trial
  extracted : Expect.extract x.response x.response.json? t.expect.extractions trial.ctx = ([], next)

namespace Walk

variable [Idna]

/-- What executing test cases one after the other comes to, from the context before them to the
context after them: the requests that are sent, the answers, and the results. -/
inductive Executes : Context → List TestCase → List Trial → List Answer → List TestResult →
    Context → Prop
  | nothing (ctx : Context) : Executes ctx [] [] [] [] ctx
  /-- The request of a test case cannot be prepared. -/
  | unprepared {ctx ctx' : Context} {test : TestCase} {result : TestResult}
      {tests : List TestCase} {sent : List Trial} {answers : List Answer}
      {results : List TestResult} (hbegin : test.begin ctx = .error result)
      (h : Executes ctx tests sent answers results ctx') :
      Executes ctx (test :: tests) sent answers (result :: results) ctx'
  /-- The request of a test case is sent and answered. -/
  | answered {ctx ctx' : Context} {test : TestCase} {trial : Trial}
      {tests : List TestCase} {sent : List Trial} {answers : List Answer}
      {results : List TestResult} (schemas : Option SchemaCheck) (a : Answer)
      (hbegin : test.begin ctx = .ok trial)
      (h : Executes (trial.conclude schemas a).2 tests sent answers results ctx') :
      Executes ctx (test :: tests) (trial :: sent) (a :: answers)
        ((trial.conclude schemas a).1 :: results) ctx'

/-- Test cases that pass one after the other, from the context before them to the context after
them: the requests that are sent, and the answers. -/
inductive Passes : Context → List TestCase → List Trial → List Exchange → Context → Prop
  | nothing (ctx : Context) : Passes ctx [] [] [] ctx
  | step {ctx next ctx' : Context} {test : TestCase} {trial : Trial} {x : Exchange}
      {tests : List TestCase} {sent : List Trial} {xs : List Exchange}
      (hfirst : test.Passes ctx trial x next) (h : Passes next tests sent xs ctx') :
      Passes ctx (test :: tests) (trial :: sent) (x :: xs) ctx'

variable {ctx ctx' ctx'' : Context} {test : TestCase} {tests tests' : List TestCase}
  {sent sent' : List Trial} {answers answers' : List Answer} {results results' : List TestResult}
  {xs : List Exchange}

/-! ## Passing -/

/-- The requests that are sent are those of the test cases, in order. -/
theorem Passes.tests_eq (h : Passes ctx tests sent xs ctx') : sent.map (·.test) = tests := by
  induction h with
  | nothing ctx => rfl
  | step hfirst _ ih => rw [List.map_cons, ih, (TestCase.begin_ok hfirst.begun).1]

/-- Each of them is what its test case is prepared to. -/
theorem Passes.prepared (h : Passes ctx tests sent xs ctx') :
    ∀ trial ∈ sent, ∃ current, trial.test.prepare current = .ok (trial.request, trial.ctx) := by
  induction h with
  | nothing ctx => exact fun _ htrial => absurd htrial List.not_mem_nil
  | step hfirst _ ih =>
      obtain ⟨rfl, hprepare⟩ := TestCase.begin_ok hfirst.begun
      exact List.forall_mem_cons.mpr ⟨⟨_, hprepare⟩, ih⟩

theorem Passes.length_eq (h : Passes ctx tests sent xs ctx') : xs.length = sent.length := by
  induction h with
  | nothing ctx => rfl
  | step _ _ ih => rw [List.length_cons, List.length_cons, ih]

/-- A test case whose request is answered and whose result is good has passed. -/
theorem passes_of_conclude {trial : Trial} {schemas : Option SchemaCheck} {a : Answer}
    (hbegin : test.begin ctx = .ok trial) (h : (trial.conclude schemas a).1.pass = true) :
    ∃ x, a = .ok x ∧ test.Passes ctx trial x (trial.conclude schemas a).2 := by
  obtain ⟨x, rfl, hextract⟩ := Trial.conclude_pass h
  rw [(TestCase.begin_ok hbegin).1] at hextract
  exact ⟨x, rfl, hbegin, hextract⟩

namespace Executes

/-! ## Executing -/

theorem append (h : Executes ctx tests sent answers results ctx')
    (h' : Executes ctx' tests' sent' answers' results' ctx'') :
    Executes ctx (tests ++ tests') (sent ++ sent') (answers ++ answers') (results ++ results')
      ctx'' := by
  induction h with
  | nothing ctx => exact h'
  | unprepared hbegin _ ih => exact .unprepared hbegin (ih h')
  | answered schemas a hbegin _ ih => exact .answered schemas a hbegin (ih h')

/-- There is one result for each test case, in order. -/
theorem results_of (h : Executes ctx tests sent answers results ctx') :
    List.Forall₂ TestResult.Of results tests := by
  induction h with
  | nothing ctx => exact .nil
  | unprepared hbegin _ ih => exact .cons (TestCase.begin_error hbegin).1 ih
  | @answered _ _ _ trial _ _ _ _ schemas a hbegin _ ih =>
      have hof := trial.conclude_of schemas a
      rw [(TestCase.begin_ok hbegin).1] at hof
      exact .cons hof ih

/-- A test case has passed when nothing about it has failed. -/
theorem pass_iff (h : Executes ctx tests sent answers results ctx') :
    ∀ r ∈ results, r.pass = true ↔ r.failures = [] := by
  induction h with
  | nothing ctx => exact fun _ hr => absurd hr List.not_mem_nil
  | unprepared hbegin _ ih => exact List.forall_mem_cons.mpr ⟨TestCase.begin_pass_iff hbegin, ih⟩
  | @answered _ _ _ trial _ _ _ _ schemas a _ _ ih =>
      exact List.forall_mem_cons.mpr ⟨trial.conclude_pass_iff schemas a, ih⟩

/-- Every request that is sent is answered. -/
theorem sent_length (h : Executes ctx tests sent answers results ctx') :
    sent.length = answers.length := by
  induction h with
  | nothing ctx => rfl
  | unprepared _ _ ih => exact ih
  | answered _ _ _ _ ih => rw [List.length_cons, List.length_cons, ih]

/-- Test cases whose results are all good have passed one after the other. -/
theorem passes (h : Executes ctx tests sent answers results ctx')
    (hpass : ∀ r ∈ results, r.pass = true) :
    ∃ xs : List Exchange, answers = xs.map .ok ∧ Passes ctx tests sent xs ctx' := by
  induction h with
  | nothing ctx => exact ⟨[], rfl, .nothing ctx⟩
  | unprepared hbegin _ _ =>
      have hfail := (TestCase.begin_error hbegin).2
      rw [hpass _ List.mem_cons_self] at hfail
      cases hfail
  | answered schemas a hbegin _ ih =>
      obtain ⟨hfirst, hrest⟩ := List.forall_mem_cons.mp hpass
      obtain ⟨x, rfl, hpasses⟩ := passes_of_conclude hbegin hfirst
      obtain ⟨xs, rfl, hxs⟩ := ih hrest
      exact ⟨x :: xs, rfl, .step hpasses hxs⟩

/-- When no result but the last is bad, the test cases before any request that was sent have passed,
and the context that they have left is the one that it was prepared with. -/
theorem passes_before (h : Executes ctx tests sent answers results ctx')
    (hpass : ∀ r ∈ results.dropLast, r.pass = true) {k : Nat} {trial : Trial}
    (hk : sent[k]? = some trial) :
    ∃ (xs : List Exchange) (current : Context) (test : TestCase),
      answers.take k = xs.map .ok ∧ Passes ctx (tests.take k) (sent.take k) xs current ∧
      tests[k]? = some test ∧ test.begin current = .ok trial := by
  induction h generalizing k with
  | nothing ctx => cases hk
  | @unprepared _ _ _ result _ _ _ results hbegin h _ =>
      cases results with
      | nil =>
          -- The test case without a request is the last one, so no request was sent at all.
          have hnone := h.results_of
          cases hnone
          cases h
          cases hk
      | cons r rest =>
          have hfail := (TestCase.begin_error hbegin).2
          rw [hpass result (by simp [List.dropLast])] at hfail
          cases hfail
  | @answered ctx _ test _ _ _ _ results schemas a hbegin h ih =>
      cases k with
      | zero =>
          cases hk
          exact ⟨[], ctx, test, rfl, .nothing ctx, rfl, hbegin⟩
      | succ k =>
          rw [List.getElem?_cons_succ] at hk
          cases results with
          | nil =>
              have hnone := h.results_of
              cases hnone
              cases h
              cases hk
          | cons r rest =>
              rw [List.dropLast_cons_cons] at hpass
              obtain ⟨hfirst, hrest⟩ := List.forall_mem_cons.mp hpass
              obtain ⟨x, rfl, hpasses⟩ := passes_of_conclude hbegin hfirst
              obtain ⟨xs, current, t, hanswers, hxs, htest, ht⟩ := ih hrest hk
              refine ⟨x :: xs, current, t, ?_, .step hpasses hxs, ?_, ht⟩
              · rw [List.take_succ_cons, hanswers]
                rfl
              · rw [List.getElem?_cons_succ]
                exact htest

end Executes

end Walk

end Conformance
