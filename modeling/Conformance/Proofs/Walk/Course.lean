import Conformance.Proofs.Walk.Executes
import Conformance.Walk.Course

/-!
# Courses of walks

A course is a walk together with what it has done (`Walk.Course`), and any answers at any moments are a
list of moves. `Course.Stands` says how a course may stand. `Stands.step`: no move leads anywhere else;
`start_stands`: so this holds of every course. The rest reads off what a walk that halts on failure
has done: when it has ended (`ended_cases`), and before each of its requests (`passed_before`).
-/

namespace Conformance.Walk

theorem trial?_leave (w : Walk) (test : TestCase) (result : TestResult) (ctx : Context)
    (rest : List TestCase) : (w.leave test result ctx rest).trial? = none := by
  rcases w.leave_cases test result ctx rest with ⟨-, -, h⟩ | ⟨-, h⟩ <;> rw [h] <;> rfl

namespace Course

variable [Idna]

theorem results_step (c : Course) (m : Move) :
    (c.step m).results = c.results ++ (c.outcome m).toList := by
  unfold step outcome Walk.advance Walk.receive
  cases m <;> cases hplace : c.walk.place <;> simp

/-- What was sent and answered stays so. -/
theorem history_step (c : Course) (m : Move) :
    c.sent <+: (c.step m).sent ∧ c.answers <+: (c.step m).answers := by
  unfold step
  cases m with
  | advance stopped =>
      dsimp only
      split
      · exact ⟨List.prefix_append _ _, List.prefix_rfl⟩
      · exact ⟨List.prefix_rfl, List.prefix_rfl⟩
  | receive schemas a =>
      dsimp only
      split
      · exact ⟨List.prefix_rfl, List.prefix_append _ _⟩
      · exact ⟨List.prefix_rfl, List.prefix_rfl⟩

/-- Letting a walk go on leaves the shared context as it is: nothing changes it but an answer. -/
theorem ctx_step_advance (c : Course) (stopped : Bool) :
    (c.step (.advance stopped)).walk.ctx = c.walk.ctx := by
  cases hplace : c.walk.place with
  | before rest =>
      cases rest with
      | nil => simp [step, hplace, advance_nil hplace]
      | cons test rest =>
          cases stopped with
          | true => simp [step, hplace, advance_stopped hplace]
          | false =>
              cases hbegin : test.begin c.walk.ctx with
              | error r => simp [step, hplace, advance_unprepared hplace hbegin, leave]
              | ok trial => simp [step, hplace, advance_prepared hplace hbegin]
  | «at» trial rest => simp [step, hplace]
  | ended ending => simp [step, hplace]

/-- The stop flag is seen by looking at it while it is up. -/
theorem sawStop_step {c : Course} {m : Move} (h : (c.step m).sawStop = true) :
    c.sawStop = true ∨ m = .advance true := by
  unfold step at h
  cases m with
  | advance stopped =>
      dsimp only at h
      split at h
      · cases stopped with
        | true => exact .inr rfl
        | false => exact .inl (by simpa using h)
      · exact .inl h
  | receive schemas a =>
      dsimp only at h
      split at h <;> exact .inl h

theorem steps_step_le (c : Course) (m : Move) : (c.step m).walk.steps ≤ c.walk.steps := by
  cases m with
  | advance stopped =>
      simp only [step]
      split
      next hplace => exact Nat.le_of_lt (steps_advance hplace stopped)
      · exact Nat.le_refl _
  | receive schemas a =>
      simp only [step]
      split
      next hplace => exact Nat.le_of_lt (steps_receive hplace schemas a)
      · exact Nat.le_refl _

/-- How the course of a walk over test cases may stand, when the walk began with a context. -/
inductive Stands (ctx : Context) (tests : List TestCase) (c : Course) : Prop
  /-- Before one of the test cases. -/
  | before {rest : List TestCase} (hplace : c.walk.place = .before rest)
      (htests : c.begun ++ rest = tests)
      (hexec : Executes ctx c.begun c.sent c.answers c.results c.walk.ctx)
      (hpass : c.walk.haltsOnFailure = true → ∀ r ∈ c.results, r.pass = true)
      (hstop : c.sawStop = false)
  /-- At a request, for which there is no result yet. -/
  | waiting {trial : Trial} {rest done : List TestCase} {sent : List Trial}
      (hplace : c.walk.place = .at trial rest) (hbegun : c.begun = done ++ [trial.test])
      (htests : c.begun ++ rest = tests) (hsent : c.sent = sent ++ [trial])
      (hexec : Executes ctx done sent c.answers c.results c.walk.ctx)
      (hbegin : trial.test.begin c.walk.ctx = .ok trial)
      (hpass : c.walk.haltsOnFailure = true → ∀ r ∈ c.results, r.pass = true)
      (hstop : c.sawStop = false)
  /-- After the last test case. -/
  | completed (hplace : c.walk.place = .ended .completed) (htests : c.begun = tests)
      (hexec : Executes ctx c.begun c.sent c.answers c.results c.walk.ctx)
      (hpass : c.walk.haltsOnFailure = true → ∀ r ∈ c.results, r.pass = true)
      (hstop : c.sawStop = false)
  /-- Stopped before a test case. -/
  | stopped {test : TestCase} {rest : List TestCase} (hplace : c.walk.place = .ended .stopped)
      (htests : c.begun ++ test :: rest = tests)
      (hexec : Executes ctx c.begun c.sent c.answers c.results c.walk.ctx)
      (hpass : c.walk.haltsOnFailure = true → ∀ r ∈ c.results, r.pass = true)
      (hstop : c.sawStop = true)
  /-- After a test case that failed. -/
  | failed {test : TestCase} {result : TestResult} {rest : List TestCase}
      {earlier : List TestResult} (hplace : c.walk.place = .ended (.failed test result))
      (htests : c.begun ++ rest = tests)
      (hexec : Executes ctx c.begun c.sent c.answers c.results c.walk.ctx)
      (hresults : c.results = earlier ++ [result]) (hfail : result.pass = false)
      (hpass : c.walk.haltsOnFailure = true → ∀ r ∈ earlier, r.pass = true)
      (hstop : c.sawStop = false)

variable {ctx : Context} {tests : List TestCase} {c : Course}

theorem start_stands (halts : Bool) (ctx : Context) (tests : List TestCase) :
    Stands ctx tests { walk := Walk.start halts ctx tests } :=
  .before rfl rfl (.nothing ctx) (fun _ _ hr => absurd hr List.not_mem_nil) rfl

/-- Where a course stands after a test case that has a result. -/
theorem stands_leave {w : Walk} {test : TestCase} {result : TestResult} {next : Context}
    {rest : List TestCase} {earlier : List TestResult}
    (hwalk : c.walk = w.leave test result next rest) (htests : c.begun ++ rest = tests)
    (hexec : Executes ctx c.begun c.sent c.answers c.results next)
    (hresults : c.results = earlier ++ [result])
    (hpass : w.haltsOnFailure = true → ∀ r ∈ earlier, r.pass = true)
    (hstop : c.sawStop = false) : Stands ctx tests c := by
  rcases w.leave_cases test result next rest with ⟨-, hfail, hleave⟩ | ⟨hok, hleave⟩
  · rw [hleave] at hwalk
    refine .failed (by rw [hwalk]) htests ?_ hresults hfail ?_ hstop
    · rw [hwalk]
      exact hexec
    · rw [hwalk]
      exact hpass
  · rw [hleave] at hwalk
    refine .before (by rw [hwalk]) htests ?_ ?_ hstop
    · rw [hwalk]
      exact hexec
    · intro hhalts r hr
      rw [hwalk] at hhalts
      rw [hresults] at hr
      rcases List.mem_append.mp hr with hr | hr
      · exact hpass hhalts r hr
      · rw [List.mem_singleton.mp hr]
        exact hok hhalts

/-- Where a course stands when a walk before its next test case is let go on. -/
theorem stands_advance {rest : List TestCase} (hplace : c.walk.place = .before rest)
    (htests : c.begun ++ rest = tests)
    (hexec : Executes ctx c.begun c.sent c.answers c.results c.walk.ctx)
    (hpass : c.walk.haltsOnFailure = true → ∀ r ∈ c.results, r.pass = true)
    (hstop : c.sawStop = false) (stopped : Bool) : Stands ctx tests (c.step (.advance stopped)) := by
  cases rest with
  | nil =>
      simp only [Course.step, hplace, advance_nil hplace]
      refine .completed rfl (by simpa using htests) (by simpa [trial?] using hexec) ?_ ?_
      · simpa using hpass
      · simpa using hstop
  | cons test rest =>
      cases stopped with
      | true =>
          simp only [Course.step, hplace, advance_stopped hplace]
          refine .stopped rfl (by simpa using htests) (by simpa [trial?] using hexec) ?_ (by simp)
          simpa using hpass
      | false =>
          cases hbegin : test.begin c.walk.ctx with
          | error result =>
              have hone : Executes c.walk.ctx [test] [] [] [result] c.walk.ctx :=
                .unprepared hbegin (.nothing _)
              simp only [Course.step, hplace, advance_unprepared hplace hbegin]
              refine stands_leave rfl (by simpa using htests) ?_ rfl hpass (by simpa using hstop)
              simpa [trial?_leave] using hexec.append hone
          | ok trial =>
              have htest := (TestCase.begin_ok hbegin).1
              have hbegun : c.begun ++ [test] = c.begun ++ [trial.test] := by
                rw [htest]
              have hsent : c.sent ++ [trial] = c.sent ++ [trial] := rfl
              simp only [Course.step, hplace, advance_prepared hplace hbegin]
              refine .waiting rfl hbegun (by simpa using htests) hsent (by simpa using hexec) ?_ ?_ ?_
              · rw [htest]
                exact hbegin
              · simpa using hpass
              · simpa using hstop

/-- Where a course stands when the request at which the walk rests gets an answer. -/
theorem stands_receive {trial : Trial} {rest done : List TestCase} {sent : List Trial}
    (hplace : c.walk.place = .at trial rest) (hbegun : c.begun = done ++ [trial.test])
    (htests : c.begun ++ rest = tests) (hsent : c.sent = sent ++ [trial])
    (hexec : Executes ctx done sent c.answers c.results c.walk.ctx)
    (hbegin : trial.test.begin c.walk.ctx = .ok trial)
    (hpass : c.walk.haltsOnFailure = true → ∀ r ∈ c.results, r.pass = true)
    (hstop : c.sawStop = false) (schemas : Option SchemaCheck) (a : Answer) :
    Stands ctx tests (c.step (.receive schemas a)) := by
  have hone : Executes c.walk.ctx [trial.test] [trial] [a] [(trial.conclude schemas a).1]
      (trial.conclude schemas a).2 := .answered schemas a hbegin (.nothing _)
  simp only [Course.step, hplace, receive_at hplace]
  refine stands_leave rfl htests ?_ rfl hpass hstop
  rw [hbegun, hsent]
  exact hexec.append hone

/-- A walk that has ended makes no more moves. -/
theorem step_ended {ending : Ending} (h : c.walk.place = .ended ending) (m : Move) :
    c.step m = c := by
  cases m <;> simp only [step, h]

theorem halts_step (c : Course) (m : Move) :
    (c.step m).walk.haltsOnFailure = c.walk.haltsOnFailure := by
  cases m with
  | advance stopped =>
      simp only [step]
      split
      · exact c.walk.halts_advance stopped
      · rfl
  | receive schemas a =>
      simp only [step]
      split
      · exact c.walk.halts_receive schemas a
      · rfl

/-- A walk that does not halt on failure does not end at one. -/
theorem unfailed_step (c : Course) (hon : c.walk.haltsOnFailure = false)
    (h : ∀ test result, c.walk.place ≠ .ended (.failed test result)) (m : Move) :
    ∀ test result, (c.step m).walk.place ≠ .ended (.failed test result) := by
  intro test result
  cases m with
  | advance stopped =>
      cases hplace : c.walk.place with
      | before rest =>
          cases rest with
          | nil => simp [step, hplace, advance_nil hplace]
          | cons first rest =>
              cases stopped with
              | true => simp [step, hplace, advance_stopped hplace]
              | false =>
                  cases hbegin : first.begin c.walk.ctx with
                  | error r => simp [step, hplace, advance_unprepared hplace hbegin, leave_onward hon]
                  | ok trial => simp [step, hplace, advance_prepared hplace hbegin]
      | «at» trial rest => simp [step, hplace]
      | ended ending =>
          rw [step_ended hplace]
          exact h test result
  | receive schemas a =>
      cases hplace : c.walk.place with
      | before rest => simp [step, hplace]
      | «at» trial rest => simp [step, hplace, receive_at hplace, leave_onward hon]
      | ended ending =>
          rw [step_ended hplace]
          exact h test result

namespace Stands

/-- Wherever a course stands, a move leads to where a course may stand. -/
theorem step (h : Stands ctx tests c) (m : Move) : Stands ctx tests (c.step m) := by
  -- A move that fits makes the history longer by what the walk does; any other is void.
  cases h with
  | before hplace htests hexec hpass hstop =>
      cases m with
      | advance stopped => exact stands_advance hplace htests hexec hpass hstop stopped
      | receive schemas a =>
          simp only [Course.step, hplace]
          exact .before hplace htests hexec hpass hstop
  | waiting hplace hbegun htests hsent hexec hbegin hpass hstop =>
      cases m with
      | advance stopped =>
          simp only [Course.step, hplace]
          exact .waiting hplace hbegun htests hsent hexec hbegin hpass hstop
      | receive schemas a =>
          exact stands_receive hplace hbegun htests hsent hexec hbegin hpass hstop schemas a
  | completed hplace htests hexec hpass hstop =>
      rw [step_ended hplace]
      exact .completed hplace htests hexec hpass hstop
  | stopped hplace htests hexec hpass hstop =>
      rw [step_ended hplace]
      exact .stopped hplace htests hexec hpass hstop
  | failed hplace htests hexec hresults hfail hpass hstop =>
      rw [step_ended hplace]
      exact .failed hplace htests hexec hresults hfail hpass hstop

theorem play (h : Stands ctx tests c) (moves : List Move) : Stands ctx tests (c.play moves) := by
  induction moves generalizing c with
  | nil => exact h
  | cons m rest ih => exact ih (h.step m)

/-- The test cases that were taken up are the first ones. -/
theorem begun_prefix (h : Stands ctx tests c) : c.begun <+: tests := by
  cases h with
  | before _ htests => exact ⟨_, htests⟩
  | waiting _ _ htests => exact ⟨_, htests⟩
  | completed _ htests => exact ⟨[], by rw [List.append_nil, htests]⟩
  | stopped _ htests => exact ⟨_, htests⟩
  | failed _ htests => exact ⟨_, htests⟩

/-- What was executed: all that was taken up, but for the test case whose request is yet to be
answered. -/
theorem executed (h : Stands ctx tests c) :
    ∃ done sent, c.begun = done ++ (c.walk.trial?.map (·.test)).toList ∧
      c.sent = sent ++ c.walk.trial?.toList ∧
      Executes ctx done sent c.answers c.results c.walk.ctx := by
  cases h with
  | before hplace _ hexec => exact ⟨_, _, by simp [trial?, hplace], by simp [trial?, hplace], hexec⟩
  | waiting hplace hbegun _ hsent hexec =>
      exact ⟨_, _, by simp [trial?, hplace, hbegun], by simp [trial?, hplace, hsent], hexec⟩
  | completed hplace _ hexec =>
      exact ⟨_, _, by simp [trial?, hplace], by simp [trial?, hplace], hexec⟩
  | stopped hplace _ hexec => exact ⟨_, _, by simp [trial?, hplace], by simp [trial?, hplace], hexec⟩
  | failed hplace _ hexec => exact ⟨_, _, by simp [trial?, hplace], by simp [trial?, hplace], hexec⟩

/-- Each test case that was taken up has one result, but for the one whose request is yet to be
answered. -/
theorem one_result (h : Stands ctx tests c) :
    ∃ done, c.begun = done ++ (c.walk.trial?.map (·.test)).toList ∧
      List.Forall₂ TestResult.Of c.results done := by
  obtain ⟨done, _, hbegun, -, hexec⟩ := h.executed
  exact ⟨done, hbegun, hexec.results_of⟩

/-- The request at which a walk rests is the last one that was sent, and not answered yet. -/
theorem at_request (h : Stands ctx tests c) {trial : Trial} {rest : List TestCase}
    (hplace : c.walk.place = .at trial rest) :
    trial.test ∈ tests ∧ trial.test.begin c.walk.ctx = .ok trial ∧
      c.sent[c.answers.length]? = some trial := by
  cases h with
  | before hother => cases hplace.symm.trans hother
  | @waiting _ _ done sent hother hbegun htests hsent hexec hbegin =>
      cases hplace.symm.trans hother
      refine ⟨?_, hbegin, ?_⟩
      · rw [← htests, hbegun]
        simp
      · rw [hsent, ← hexec.sent_length]
        simp
  | completed hother => cases hplace.symm.trans hother
  | stopped hother => cases hplace.symm.trans hother
  | failed hother => cases hplace.symm.trans hother

/-- Before a test case, those before it have passed if a failure would have been the end. -/
theorem passed_of_before (h : Stands ctx tests c) (hhalts : c.walk.haltsOnFailure = true)
    {rest : List TestCase} (hplace : c.walk.place = .before rest) :
    c.begun ++ rest = tests ∧ ∃ xs, Passes ctx c.begun c.sent xs c.walk.ctx := by
  cases h with
  | before hother htests hexec hpass =>
      cases hplace.symm.trans hother
      obtain ⟨xs, -, hpasses⟩ := hexec.passes (hpass hhalts)
      exact ⟨htests, xs, hpasses⟩
  | waiting hother => cases hplace.symm.trans hother
  | completed hother => cases hplace.symm.trans hother
  | stopped hother => cases hplace.symm.trans hother
  | failed hother => cases hplace.symm.trans hother

/-- A test case has passed when nothing about it has failed. -/
theorem pass_iff (h : Stands ctx tests c) : ∀ r ∈ c.results, r.pass = true ↔ r.failures = [] := by
  obtain ⟨_, _, -, -, hexec⟩ := h.executed
  exact hexec.pass_iff

/-- A walk that halts on failure has ended once a test case has failed or a stop was seen. -/
theorem ended_of_halted (h : Stands ctx tests c) (hhalts : c.walk.haltsOnFailure = true)
    (hcause : (∃ r ∈ c.results, r.pass = false) ∨ c.sawStop = true) :
    ∃ ending, c.walk.place = .ended ending := by
  have hclean : ¬ ((∀ r ∈ c.results, r.pass = true) ∧ c.sawStop = false) := by
    rintro ⟨hpass, hstop⟩
    rcases hcause with ⟨r, hr, hfail⟩ | hseen
    · rw [hpass r hr] at hfail
      cases hfail
    · rw [hstop] at hseen
      cases hseen
  cases h with
  | before _ _ _ hpass hstop => exact absurd ⟨hpass hhalts, hstop⟩ hclean
  | waiting _ _ _ _ _ _ hpass hstop => exact absurd ⟨hpass hhalts, hstop⟩ hclean
  | completed hplace => exact ⟨_, hplace⟩
  | stopped hplace => exact ⟨_, hplace⟩
  | failed hplace => exact ⟨_, hplace⟩

/-- How a walk that halts on failure has ended: after all test cases, which have passed; before one of
them, since a stop was seen; or after one that failed. -/
theorem ended_cases (h : Stands ctx tests c) (hhalts : c.walk.haltsOnFailure = true)
    {ending : Ending} (hended : c.walk.place = .ended ending) :
    Executes ctx c.begun c.sent c.answers c.results c.walk.ctx ∧
      (ending = .completed ∧ c.begun = tests ∧ (∀ r ∈ c.results, r.pass = true) ∧
          c.sawStop = false ∨
        ending = .stopped ∧ c.begun.length < tests.length ∧ c.sawStop = true ∨
        (∃ test result, ending = .failed test result) ∧ ∃ r ∈ c.results, r.pass = false) := by
  cases h with
  | before hplace =>
      rw [hplace] at hended
      cases hended
  | waiting hplace =>
      rw [hplace] at hended
      cases hended
  | completed hplace htests hexec hpass hstop =>
      rw [hplace] at hended
      cases hended
      exact ⟨hexec, .inl ⟨rfl, htests, hpass hhalts, hstop⟩⟩
  | stopped hplace htests hexec _ hstop =>
      rw [hplace] at hended
      cases hended
      refine ⟨hexec, .inr (.inl ⟨rfl, ?_, hstop⟩)⟩
      rw [← htests, List.length_append, List.length_cons]
      omega
  | failed hplace _ hexec hresults hfail =>
      rw [hplace] at hended
      cases hended
      exact ⟨hexec, .inr (.inr ⟨⟨_, _, rfl⟩, _, by simp [hresults], hfail⟩)⟩

/-- A walk that halts on failure ends early when a test case has failed, or when a stop was seen
while there were test cases to take up. -/
theorem ended_early_iff (h : Stands ctx tests c) (hhalts : c.walk.haltsOnFailure = true)
    {ending : Ending} (hended : c.walk.place = .ended ending) :
    ending ≠ .completed ↔ (∃ r ∈ c.results, r.pass = false) ∨
      (c.sawStop = true ∧ c.begun.length < tests.length) := by
  obtain ⟨-, ⟨rfl, -, hpass, hstop⟩ | ⟨rfl, hless, hstop⟩ | ⟨⟨test, result, rfl⟩, hfail⟩⟩ :=
    h.ended_cases hhalts hended
  · refine iff_of_false (fun hne => hne rfl) ?_
    rintro (⟨r, hr, hfail⟩ | ⟨hseen, -⟩)
    · rw [hpass r hr] at hfail
      cases hfail
    · rw [hstop] at hseen
      cases hseen
  · exact iff_of_true nofun (.inr ⟨hstop, hless⟩)
  · exact iff_of_true nofun (.inl hfail)

/-- When a walk that halts on failure has ended after its last test case, all of them have passed. -/
theorem passed_all (h : Stands ctx tests c) (hhalts : c.walk.haltsOnFailure = true)
    (hended : c.walk.place = .ended .completed) :
    c.begun = tests ∧
      ∃ xs : List Exchange, c.answers = xs.map .ok ∧ Passes ctx tests c.sent xs c.walk.ctx := by
  obtain ⟨hexec, ⟨-, htests, hpass, -⟩ | ⟨hne, -⟩ | ⟨⟨_, _, hne⟩, -⟩⟩ :=
    h.ended_cases hhalts hended
  · rw [htests] at hexec
    exact ⟨htests, hexec.passes hpass⟩
  · cases hne
  · cases hne

/-- What a walk that halts on failure has executed when the request at which it rests, if it rests at
one, gets any answer: no result but the last is bad. -/
theorem executes_answered (h : Stands ctx tests c) (hhalts : c.walk.haltsOnFailure = true) :
    ∃ (done rest : List TestCase) (later : List Answer) (results : List TestResult)
      (ctx' : Context), done ++ rest = tests ∧ later.length ≤ 1 ∧
      Executes ctx done c.sent (c.answers ++ later) results ctx' ∧
      ∀ r ∈ results.dropLast, r.pass = true := by
  have hgood : (∀ r ∈ c.results, r.pass = true) → ∀ r ∈ c.results.dropLast, r.pass = true :=
    fun hpass r hr => hpass r (List.dropLast_subset c.results hr)
  cases h with
  | @before rest _ htests hexec hpass =>
      refine ⟨c.begun, rest, [], c.results, c.walk.ctx, htests, Nat.zero_le 1, ?_,
        hgood (hpass hhalts)⟩
      rw [List.append_nil]
      exact hexec
  | @waiting trial rest done sent _ hbegun htests hsent hexec hbegin hpass =>
      have hone : Executes c.walk.ctx [trial.test] [trial] [.error .broken]
          [(trial.conclude none (.error .broken)).1] (trial.conclude none (.error .broken)).2 :=
        .answered none (.error .broken) hbegin (.nothing _)
      have hall := hexec.append hone
      rw [← hbegun, ← hsent] at hall
      refine ⟨c.begun, rest, [.error .broken], _, _, htests, Nat.le_refl 1, hall, ?_⟩
      rw [List.dropLast_concat]
      exact hpass hhalts
  | completed _ htests hexec hpass =>
      refine ⟨c.begun, [], [], c.results, c.walk.ctx, ?_, Nat.zero_le 1, ?_, hgood (hpass hhalts)⟩
      · rw [List.append_nil, htests]
      · rw [List.append_nil]
        exact hexec
  | @stopped test rest _ htests hexec hpass =>
      refine ⟨c.begun, test :: rest, [], c.results, c.walk.ctx, htests, Nat.zero_le 1, ?_,
        hgood (hpass hhalts)⟩
      rw [List.append_nil]
      exact hexec
  | @failed _ result rest earlier _ htests hexec hresults _ hpass =>
      refine ⟨c.begun, rest, [], c.results, c.walk.ctx, htests, Nat.zero_le 1, ?_, ?_⟩
      · rw [List.append_nil]
        exact hexec
      · rw [hresults, List.dropLast_concat]
        exact hpass hhalts

/-- When a walk that halts on failure has sent a request, all test cases before that one have passed,
and the context that they have left is the one that the request was prepared with. -/
theorem passed_before (h : Stands ctx tests c) (hhalts : c.walk.haltsOnFailure = true) {k : Nat}
    {trial : Trial} (hk : c.sent[k]? = some trial) :
    ∃ (xs : List Exchange) (current : Context) (test : TestCase),
      c.answers.take k = xs.map .ok ∧ Passes ctx (tests.take k) (c.sent.take k) xs current ∧
      tests[k]? = some test ∧ test.begin current = .ok trial := by
  obtain ⟨done, rest, later, results, ctx', rfl, hlater, hexec, hgood⟩ := h.executes_answered hhalts
  obtain ⟨xs, current, test, hanswers, hpasses, htest, hbegin⟩ := hexec.passes_before hgood hk
  obtain ⟨hless, -⟩ := List.getElem?_eq_some_iff.mp hk
  obtain ⟨hdone, -⟩ := List.getElem?_eq_some_iff.mp htest
  have hlength := hexec.sent_length
  rw [List.length_append] at hlength
  rw [List.take_append_of_le_length (by omega)] at hanswers
  refine ⟨xs, current, test, hanswers, ?_, ?_, hbegin⟩
  · rw [List.take_append_of_le_length (Nat.le_of_lt hdone)]
    exact hpasses
  · rw [List.getElem?_append_left hdone]
    exact htest

end Stands

end Course

end Conformance.Walk
