import Conformance.Proofs.Walk.Course
import Conformance.Run.Course

/-!
# The results of a run

A run walks over its suite, reports each result to its owner, and says when it has completed; the
owner may ask it to stop. `RunDefinition.Course` is a run with what it has done. It looks at the stop
flag in one move and goes on in another, so that any list of moves is a schedule in which the owner
asks at any moment, also between the two, and in which the requests get any answers.

`play_reports` says what holds at every moment of every such schedule: the results are those of the
first test cases of the suite, one for each; once the run is asked to stop it reports at most one
more; and it completes, after its last result.
-/

namespace Conformance.RunDefinition

namespace Course

variable {c c' c'' : Course}

/-! ## At a later moment -/

/-- From one moment to a later one no test case was taken up: only the one that was underway may have
its result now. -/
inductive Finishes (c c' : Course) : Prop
  | same (hresults : c'.course.results = c.course.results)
      (hunderway : ∀ test, c'.underway? = some test → c.underway? = some test)
  | one {test : TestCase} {r : TestResult} (hunderway : c.underway? = some test) (hof : r.Of test)
      (hresults : c'.course.results = c.course.results ++ [r]) (hnone : c'.underway? = none)

theorem Finishes.trans (h : Finishes c c') (h' : Finishes c' c'') : Finishes c c'' := by
  cases h with
  | same hresults hunderway =>
      cases h' with
      | same hresults' hunderway' =>
          exact .same (hresults'.trans hresults) fun test ht => hunderway test (hunderway' test ht)
      | one hunderway' hof hresults' hnone =>
          exact .one (hunderway _ hunderway') hof (by rw [hresults', hresults]) hnone
  | one hunderway hof hresults hnone =>
      cases h' with
      | same hresults' hunderway' =>
          refine .one hunderway hof (hresults'.trans hresults) ?_
          cases hlater : c''.underway? with
          | none => rfl
          | some test => rw [← hnone, hunderway' test hlater]
      | one hunderway' =>
          rw [hnone] at hunderway'
          cases hunderway'

section

variable [Idna]

/-! ## What a move does -/

/-- What a move may do. -/
inductive Stepped (c : Course) : Move → Course → Prop
  /-- The move does not fit where the run stands. -/
  | void {m : Move} (hm : Move.stop ≠ m) : Stepped c m c
  | stopped : Stepped c .stop { c with controller := c.controller.stop }
  | looked {test : TestCase} {rest : List TestCase}
      (hplace : c.course.walk.place = .before (test :: rest)) (hlooked : c.looked = none) :
      Stepped c .look { c with looked := some c.controller.stopped }
  /-- No test case is left. -/
  | exhausted (hplace : c.course.walk.place = .before []) :
      Stepped c .go (c.moved (.advance false))
  /-- The next test case is taken up, or not if the flag was seen up. -/
  | advanced {test : TestCase} {rest : List TestCase} {stopped : Bool}
      (hplace : c.course.walk.place = .before (test :: rest)) (hlooked : c.looked = some stopped) :
      Stepped c .go (c.moved (.advance stopped))
  | answered {trial : Trial} {rest : List TestCase} {a : Answer}
      (hplace : c.course.walk.place = .at trial rest) :
      Stepped c (.receive a) (c.moved (.receive c.schemas a))
  | completed {ending : Walk.Ending} (hplace : c.course.walk.place = .ended ending)
      (hthere : c.gone = false) :
      Stepped c .go { c with gone := true, controller := c.controller.complete }

theorem step_cases (c : Course) (m : Move) : Stepped c m (c.step m) := by
  cases m with
  | stop => exact .stopped
  | look =>
      unfold step
      dsimp only
      split
      next hplace hlooked => exact .looked hplace hlooked
      · exact .void nofun
  | go =>
      unfold step
      dsimp only
      split
      next hplace => exact .exhausted hplace
      next hplace hlooked => exact .advanced hplace hlooked
      next hplace =>
        split
        · exact .void nofun
        next hthere => exact .completed hplace (Bool.eq_false_iff.mpr hthere)
      · exact .void nofun
  | receive a =>
      unfold step
      dsimp only
      split
      next hplace => exact .answered hplace
      · exact .void nofun

theorem play_cons (c : Course) (m : Move) (rest : List Move) :
    c.play (m :: rest) = (c.step m).play rest := rfl

theorem play_append (c : Course) (moves later : List Move) :
    c.play (moves ++ later) = (c.play moves).play later := List.foldl_append

/-! ## What a run shares with its owner -/

theorem course_moved (c : Course) (m : Walk.Move) : (c.moved m).course = c.course.step m := rfl

theorem results_moved (c : Course) (m : Walk.Move) :
    (c.moved m).controller.results = c.controller.results ++ (c.course.outcome m).toList := by
  unfold moved
  cases c.course.outcome m with
  | none => exact (List.append_nil _).symm
  | some r => rfl

theorem stopped_moved (c : Course) (m : Walk.Move) :
    (c.moved m).controller.stopped = c.controller.stopped := by
  unfold moved
  cases c.course.outcome m <;> rfl

theorem completed_moved (c : Course) (m : Walk.Move) :
    (c.moved m).controller.completed = c.controller.completed := by
  unfold moved
  cases c.course.outcome m <;> rfl

/-- The stop flag goes up when the owner asks for it, and does not come down. -/
theorem Stepped.stopped_iff {m : Move} (h : Stepped c m c') :
    c'.controller.stopped = true ↔ c.controller.stopped = true ∨ Move.stop = m := by
  cases h with
  | void hm => simp [hm]
  | stopped => exact iff_of_true rfl (.inr rfl)
  | looked => simp
  | exhausted => simp [stopped_moved]
  | advanced => simp [stopped_moved]
  | answered => simp [stopped_moved]
  | completed => simp [Controller.complete]

theorem stopped_play (c : Course) (moves : List Move) :
    (c.play moves).controller.stopped = true ↔
      c.controller.stopped = true ∨ Move.stop ∈ moves := by
  induction moves generalizing c with
  | nil => simp [play]
  | cons m rest ih => rw [play_cons, ih, (c.step_cases m).stopped_iff, List.mem_cons, or_assoc]

/-! ## What a move keeps -/

/-- What holds of a run at any moment. -/
structure Stands (d : RunDefinition) (ctx : Context) (owner : Controller) (c : Course) : Prop where
  onward : c.course.walk.haltsOnFailure = false
  walk : c.course.Stands (d.privateContext ctx) d.suite.testCases
  /-- Its walk does not end at a failure. -/
  unfailed : ∀ test result, c.course.walk.place ≠ .ended (.failed test result)
  kept : c.controller.results = owner.results ++ c.course.results
  /-- Only an owner who has asked it to stop has the flag up. -/
  looked : c.looked = some true → c.controller.stopped = true
  saw : c.course.sawStop = true → c.controller.stopped = true
  /-- It looks at the flag before a test case only. -/
  before : ∀ stopped, c.looked = some stopped → ∃ rest, c.course.walk.place = .before rest
  gone : c.gone = true → ∃ ending, c.course.walk.place = .ended ending
  completed : c.controller.completed = (owner.completed || c.gone)

variable {d : RunDefinition} {ctx : Context} {owner : Controller}

theorem start_stands (d : RunDefinition) (ctx : Context) (schemas : Option SchemaCheck)
    (owner : Controller) : Stands d ctx owner (start d ctx schemas owner) where
  onward := rfl
  walk := Walk.Course.start_stands false (d.privateContext ctx) d.suite.testCases
  unfailed := nofun
  kept := (List.append_nil _).symm
  looked := nofun
  saw := nofun
  before := nofun
  gone := nofun
  completed := (Bool.or_false _).symm

/-- The walk of a run that is there makes a move. -/
theorem Stands.moved (h : Stands d ctx owner c) {m : Walk.Move}
    (hthere : ∀ ending, c.course.walk.place ≠ .ended ending)
    (hseen : m = .advance true → c.controller.stopped = true) : Stands d ctx owner (c.moved m) where
  onward := (c.course.halts_step m).trans h.onward
  walk := h.walk.step m
  unfailed := c.course.unfailed_step h.onward h.unfailed m
  kept := by
    have hresults : (c.moved m).course.results = c.course.results ++ (c.course.outcome m).toList :=
      c.course.results_step m
    rw [results_moved, h.kept, hresults, List.append_assoc]
  looked := nofun
  saw hsaw := by
    rw [stopped_moved]
    exact (Walk.Course.sawStop_step hsaw).elim h.saw hseen
  before := nofun
  gone hgone := by
    obtain ⟨ending, hended⟩ := h.gone hgone
    exact absurd hended (hthere ending)
  completed := (completed_moved c m).trans h.completed

theorem Stands.stepped {m : Move} (h : Stands d ctx owner c) (hstep : Stepped c m c') :
    Stands d ctx owner c' := by
  cases hstep with
  | void => exact h
  | stopped => exact { h with looked := fun _ => rfl, saw := fun _ => rfl }
  | looked hplace =>
      exact { h with looked := Option.some.inj, before := fun _ _ => ⟨_, hplace⟩ }
  | exhausted hplace => exact h.moved (fun _ => by simp [hplace]) nofun
  | advanced hplace hlooked =>
      refine h.moved (fun _ => by simp [hplace]) fun hm => ?_
      cases hm
      exact h.looked hlooked
  | answered hplace => exact h.moved (fun _ => by simp [hplace]) nofun
  | completed hplace =>
      exact { h with gone := fun _ => ⟨_, hplace⟩, completed := (Bool.or_true _).symm }

theorem Stands.play (h : Stands d ctx owner c) (moves : List Move) :
    Stands d ctx owner (c.play moves) := by
  induction moves generalizing c with
  | nil => exact h
  | cons m rest ih => exact ih (h.stepped (c.step_cases m))

/-! ## The end of a run -/

theorem Stepped.gone {m : Move} (h : c.gone = true) (hstep : Stepped c m c') : c'.gone = true := by
  cases hstep with
  | completed => rfl
  | _ => exact h

/-- A run whose walk has ended reports nothing more. -/
theorem Stepped.course_of_ended {ending : Walk.Ending} (h : c.course.walk.place = .ended ending)
    {m : Move} (hstep : Stepped c m c') : c'.course = c.course := by
  cases hstep with
  | void => rfl
  | stopped => rfl
  | looked => rfl
  | exhausted => rw [course_moved, Walk.Course.step_ended h]
  | advanced => rw [course_moved, Walk.Course.step_ended h]
  | answered => rw [course_moved, Walk.Course.step_ended h]
  | completed => rfl

theorem course_play_of_ended {ending : Walk.Ending} (h : c.course.walk.place = .ended ending)
    (moves : List Move) : (c.play moves).course = c.course := by
  induction moves generalizing c with
  | nil => rfl
  | cons m rest ih =>
      have hstep := (c.step_cases m).course_of_ended h
      rw [play_cons, ih (by rw [hstep]; exact h), hstep]

/-- A run that has come to its end without being asked to stop has executed all test cases. -/
theorem Stands.executed_all (h : Stands d ctx owner c) (hgone : c.gone = true)
    (hdown : c.controller.stopped = false) :
    List.Forall₂ TestResult.Of c.course.results d.suite.testCases := by
  obtain ⟨ending, hended⟩ := h.gone hgone
  cases h.walk with
  | before hplace =>
      rw [hplace] at hended
      cases hended
  | waiting hplace =>
      rw [hplace] at hended
      cases hended
  | completed _ htests hexec =>
      rw [htests] at hexec
      exact hexec.results_of
  | stopped _ _ _ _ hstop =>
      rw [h.saw hstop] at hdown
      cases hdown
  | failed hplace => exact absurd hplace (h.unfailed _ _)

/-! ## After a stop is asked for -/

/-- After a move of its walk the run is at a test case only if it rests at its request. -/
theorem underway_moved (c : Course) (m : Walk.Move) :
    (c.moved m).underway? = (c.course.step m).walk.trial?.map (·.test) := by
  unfold underway? Walk.trial?
  rw [course_moved]
  cases (c.course.step m).walk.place with
  | before rest => cases rest <;> rfl
  | «at» trial rest => rfl
  | ended ending => rfl

/-- What the run does with its next test case, which it takes up unless it has seen the flag up. -/
theorem finishes_advance {test : TestCase} {rest : List TestCase} {stopped : Bool}
    (hplace : c.course.walk.place = .before (test :: rest)) (hlooked : c.looked = some stopped) :
    Finishes c (c.moved (.advance stopped)) := by
  cases stopped with
  | true =>
      have hwalk := Walk.advance_stopped hplace
      refine .same ?_ fun _ => ?_
      · simp [course_moved, Walk.Course.step, hplace, hwalk]
      · simp [underway_moved, Walk.Course.step, hplace, hwalk, Walk.trial?]
  | false =>
      have hunderway : c.underway? = some test := by
        simp [underway?, hplace, hlooked]
      cases hbegin : test.begin c.course.walk.ctx with
      | error r =>
          have hwalk := Walk.advance_unprepared hplace hbegin
          refine .one hunderway (TestCase.begin_error hbegin).1 ?_ ?_
          · simp [course_moved, Walk.Course.step, hplace, hwalk]
          · simp [underway_moved, Walk.Course.step, hplace, hwalk, Walk.trial?_leave]
      | ok trial =>
          have hwalk := Walk.advance_prepared hplace hbegin
          refine .same ?_ fun _ => ?_
          · simp [course_moved, Walk.Course.step, hplace, hwalk]
          · simp [underway_moved, Walk.Course.step, hplace, hwalk, Walk.trial?, hunderway,
              (TestCase.begin_ok hbegin).1]

theorem finishes_receive {trial : Trial} {rest : List TestCase}
    (hplace : c.course.walk.place = .at trial rest) (a : Answer) :
    Finishes c (c.moved (.receive c.schemas a)) := by
  have hwalk := Walk.receive_at hplace c.schemas a
  have hunderway : c.underway? = some trial.test := by
    simp [underway?, hplace]
  refine .one hunderway (trial.conclude_of c.schemas a) ?_ ?_
  · simp [course_moved, Walk.Course.step, hplace, hwalk]
  · simp [underway_moved, Walk.Course.step, hplace, hwalk, Walk.trial?_leave]

/-- A run that is asked to stop takes up no other test case. -/
theorem Stepped.finishes (hup : c.controller.stopped = true) {m : Move}
    (hstep : Stepped c m c') : Finishes c c' := by
  cases hstep with
  | void => exact .same rfl fun _ ht => ht
  | stopped => exact .same rfl fun _ ht => ht
  | looked hplace => exact .same rfl (by simp [underway?, hplace, hup])
  | exhausted hplace =>
      have hwalk := Walk.advance_nil hplace false
      refine .same ?_ fun _ => ?_
      · simp [course_moved, Walk.Course.step, hplace, hwalk]
      · simp [underway_moved, Walk.Course.step, hplace, hwalk, Walk.trial?]
  | advanced hplace hlooked => exact finishes_advance hplace hlooked
  | answered hplace => exact finishes_receive hplace _
  | completed hplace => exact .same rfl fun _ ht => ht

theorem finishes_play (hup : c.controller.stopped = true) (moves : List Move) :
    Finishes c (c.play moves) := by
  induction moves generalizing c with
  | nil => exact .same rfl fun _ ht => ht
  | cons m rest ih =>
      have hstep := c.step_cases m
      exact (hstep.finishes hup).trans (ih (hstep.stopped_iff.mpr (.inl hup)))

/-! ## Every run comes to its end -/

/-- One round: whatever else happens, the run looks at the stop flag and goes on, and a request at
which it rests then is answered. -/
abbrev Round := List Move × Answer

/-- The moves of a round. -/
def Round.moves (r : Round) : List Move := r.1 ++ [.look, .go, .receive r.2]

/-- How many steps a run can still take. -/
def left (c : Course) : Nat := if c.gone then 0 else c.course.walk.steps

theorem left_moved_le (c : Course) (m : Walk.Move) : (c.moved m).left ≤ c.left := by
  unfold left moved
  dsimp only
  split
  · exact Nat.le_refl 0
  · exact c.course.steps_step_le m

theorem Stepped.left_le {m : Move} (hstep : Stepped c m c') : c'.left ≤ c.left := by
  cases hstep with
  | void => exact Nat.le_refl _
  | stopped => exact Nat.le_refl _
  | looked => exact Nat.le_refl _
  | exhausted => exact left_moved_le c _
  | advanced => exact left_moved_le c _
  | answered => exact left_moved_le c _
  | completed => exact Nat.zero_le _

theorem left_play_le (c : Course) (moves : List Move) : (c.play moves).left ≤ c.left := by
  induction moves generalizing c with
  | nil => exact Nat.le_refl _
  | cons m rest ih => exact Nat.le_trans (ih (c.step m)) (c.step_cases m).left_le

/-- A run that goes on takes a step, unless it rests at a request. -/
theorem left_go_lt (h : c.gone = false) (hrest : c.course.walk.trial? = none)
    (hlooked : ∀ test rest, c.course.walk.place = .before (test :: rest) → c.looked ≠ none) :
    (c.step .go).left < c.left := by
  have hleft : c.left = c.course.walk.steps := by
    simp [left, h]
  rw [hleft]
  cases hplace : c.course.walk.place with
  | before tests =>
      cases tests with
      | nil =>
          have hstep := Walk.steps_advance hplace false
          simpa [step, hplace, moved, left, h, Walk.Course.step] using hstep
      | cons test rest =>
          obtain ⟨stopped, hseen⟩ := Option.ne_none_iff_exists'.mp (hlooked test rest hplace)
          have hstep := Walk.steps_advance hplace stopped
          simpa [step, hplace, hseen, moved, left, h, Walk.Course.step] using hstep
  | «at» trial rest =>
      rw [Walk.trial?, hplace] at hrest
      cases hrest
  | ended ending => simpa [step, hplace, left, h] using c.course.walk.steps_pos

/-- Looking at the flag makes a run ready to go on, and does nothing else. -/
theorem look_ready (c : Course) :
    (c.step .look).course = c.course ∧ (c.step .look).gone = c.gone ∧
      ∀ test rest, c.course.walk.place = .before (test :: rest) → (c.step .look).looked ≠ none := by
  unfold step
  dsimp only
  split
  · exact ⟨rfl, rfl, fun _ _ _ => nofun⟩
  next hother => exact ⟨rfl, rfl, fun test rest hplace => hother test rest hplace⟩

/-- A round takes a run that is there forward. -/
theorem left_round_lt (h : c.gone = false) (a : Answer) :
    (c.play [.look, .go, .receive a]).left < c.left := by
  have hplay : c.play [.look, .go, .receive a] = ((c.step .look).step .go).step (.receive a) := rfl
  obtain ⟨hcourse, hgone, hready⟩ := c.look_ready
  have hleft : (c.step .look).left = c.left := by
    rw [left, left, hcourse, hgone]
  rw [hplay]
  cases hplace : c.course.walk.place with
  | «at» trial rest =>
      have hstep := Walk.steps_receive hplace c.schemas a
      simpa [step, hplace, left, h, moved, Walk.Course.step] using hstep
  | before tests =>
      have hgo : ((c.step .look).step .go).left < (c.step .look).left :=
        left_go_lt (hgone.trans h) (by rw [hcourse, Walk.trial?, hplace]) (by rwa [hcourse])
      rw [hleft] at hgo
      exact Nat.lt_of_le_of_lt (Course.step_cases _ _).left_le hgo
  | ended ending =>
      have hgo : ((c.step .look).step .go).left < (c.step .look).left :=
        left_go_lt (hgone.trans h) (by rw [hcourse, Walk.trial?, hplace]) (by rwa [hcourse])
      rw [hleft] at hgo
      exact Nat.lt_of_le_of_lt (Course.step_cases _ _).left_le hgo

theorem gone_play (h : c.gone = true) (moves : List Move) : (c.play moves).gone = true := by
  induction moves generalizing c with
  | nil => exact h
  | cons m rest ih => exact ih ((c.step_cases m).gone h)

/-- After as many rounds as it can still take steps, a run has come to its end. -/
theorem gone_of_rounds {rounds : List Round} (h : c.left ≤ rounds.length) :
    (c.play (rounds.flatMap Round.moves)).gone = true := by
  induction rounds generalizing c with
  | nil =>
      have hpos := c.course.walk.steps_pos
      by_contra hgone
      have hleft : c.left = c.course.walk.steps := if_neg hgone
      rw [List.length_nil] at h
      omega
  | cons r rest ih =>
      rw [List.flatMap_cons, Round.moves, List.append_assoc, play_append, play_append]
      have hother := c.left_play_le r.1
      cases hgone : (c.play r.1).gone with
      | true => exact gone_play (gone_play hgone _) _
      | false =>
          have hless := left_round_lt hgone r.2
          rw [List.length_cons] at h
          exact ih (by omega)

/-! ## What a run reports -/

/-- What holds of a run at any moment, when its owner has shared a controller with it and some moves
have been made. -/
structure Reports (d : RunDefinition) (owner : Controller) (moves : List Move) (c : Course) :
    Prop where
  /-- Its results are those of the first test cases of the specifications, in order, one for each. -/
  one_result : ∃ done, done <+: d.suite.specifications.flatMap (·.testCases) ∧
    List.Forall₂ TestResult.Of c.course.results done
  /-- The owner has all of them, after the results that were there before. -/
  kept : c.controller.results = owner.results ++ c.course.results
  /-- A result is good when nothing has failed. -/
  pass_iff : ∀ r ∈ c.course.results, r.pass = true ↔ r.failures = []
  /-- When it has completed and was not asked to stop, all test cases have a result. -/
  all_results : c.gone = true → owner.stopped = false → Move.stop ∉ moves →
    List.Forall₂ TestResult.Of c.course.results (d.suite.specifications.flatMap (·.testCases))
  /-- Once it is asked to stop it reports at most one more result, that of the test case before which
  it has looked at the flag already. -/
  after_stop : owner.stopped = true ∨ Move.stop ∈ moves → ∀ later, ∃ more,
    (c.play later).course.results = c.course.results ++ more ∧ more.length ≤ 1 ∧
      ∀ r ∈ more, ∃ test, c.underway? = some test ∧ r.Of test
  /-- Its owner is told when it has completed, not before. -/
  signalled_iff : c.controller.completed = true ↔ owner.completed = true ∨ c.gone = true
  /-- After that it reports nothing. -/
  none_after : c.gone = true → ∀ later, (c.play later).course.results = c.course.results
  /-- It completes within two rounds for each test case, and two more. -/
  completes : ∀ rounds : List Round,
    2 * (d.suite.specifications.flatMap (·.testCases)).length + 2 ≤ rounds.length →
    (c.play (rounds.flatMap Round.moves)).gone = true

/-- **The results of a run.** Whatever the suite, the context and the controller that a run begins
with, whatever the answers to its requests and whenever its owner asks it to stop: it reports one
result for each of the first test cases, in order, for all of them if it is not asked to stop, and at
most one once it is; and it says that it has completed, after the last of them. -/
theorem play_reports (d : RunDefinition) (ctx : Context) (schemas : Option SchemaCheck)
    (owner : Controller) (moves : List Move) :
    Reports d owner moves ((start d ctx schemas owner).play moves) := by
  have h := (start_stands d ctx schemas owner).play moves
  have hleft := (start d ctx schemas owner).left_play_le moves
  have hflag : ((start d ctx schemas owner).play moves).controller.stopped = true ↔
      owner.stopped = true ∨ Move.stop ∈ moves := stopped_play _ moves
  generalize (start d ctx schemas owner).play moves = c at h hleft hflag
  refine ⟨?_, h.kept, h.walk.pass_iff, ?_, ?_, ?_, ?_, ?_⟩
  · obtain ⟨done, hbegun, hresults⟩ := h.walk.one_result
    exact ⟨done, List.IsPrefix.trans ⟨_, hbegun.symm⟩ h.walk.begun_prefix, hresults⟩
  · intro hgone hdown hnever
    refine h.executed_all hgone (Bool.eq_false_iff.mpr fun hup => ?_)
    rcases hflag.mp hup with howner | hasked
    · rw [hdown] at howner
      cases howner
    · exact hnever hasked
  · intro hasked later
    cases finishes_play (hflag.mpr hasked) later with
    | same hresults =>
        exact ⟨[], by rw [hresults, List.append_nil], Nat.zero_le 1, nofun⟩
    | one hunderway hof hresults =>
        refine ⟨[_], hresults, Nat.le_refl 1, fun r hr => ?_⟩
        rw [List.mem_singleton.mp hr]
        exact ⟨_, hunderway, hof⟩
  · rw [h.completed, Bool.or_eq_true]
  · intro hgone later
    obtain ⟨ending, hended⟩ := h.gone hgone
    rw [course_play_of_ended hended]
  · intro rounds hrounds
    exact gone_of_rounds (Nat.le_trans hleft hrounds)

end

/-- A request for what stands at a path. -/
def pathRequest (path : String) : RequestTemplate where
  method := "GET"
  endpoint := "https://bank.example" ++ path

/-- Two specifications, with three test cases. -/
def twoSpecifications : RunDefinition where
  suite := { specifications := [
    { specification := { name := "accounts" }, testCases := [
      { id := "balances", input := pathRequest "/balances", expect := { statusCode := 200 } },
      { id := "parties", input := pathRequest "/parties", expect := { statusCode := 200 } }] },
    { specification := { name := "payments" }, testCases := [
      { id := "orders", input := pathRequest "/orders" }] }] }

/-- The first request is answered. The run is asked to stop when it has looked at the flag before the
second test case; that request is not answered. -/
def stoppedMoves : List Move :=
  [.look, .go, .receive (.ok ⟨.ofBody 200 "", {}⟩), .look, .stop, .go, .receive (.error .broken),
    .look, .go, .go]

/-- The run reports the results of both, and that it has completed. -/
theorem stoppedMoves_reported :
    let c := (start twoSpecifications .empty none {}).play stoppedMoves
    Reports twoSpecifications {} stoppedMoves c ∧
      (c.course.results.map fun r => (r.id, r.pass)) = [("balances", true), ("parties", false)] ∧
      c.controller.results = c.course.results ∧ c.controller.completed = true := by
  have hreports := play_reports twoSpecifications .empty none {} stoppedMoves
  exact ⟨hreports, by decide +kernel, hreports.kept, by decide +kernel⟩

end Course

end Conformance.RunDefinition
