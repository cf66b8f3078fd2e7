import Conformance.Consent.Course
import Conformance.Proofs.Walk.Course

/-!
# One item for each consent flow

A consent flow walks over the steps of its component, offers one item, and is gone:
`ConsentFlow.Course` is a flow with what it has done, whoever answers its requests and whenever it is
asked to stop. `play_one_item`: at every moment the steps that it has executed are the first ones of
the component, with one result each, and none follows a failed one; it offers one item, for its token,
which tells whether all steps have passed.
-/

namespace Conformance.ConsentFlow

namespace Course

/-! ## What it reports -/

theorem report_error_iff {f : ConsentFlow} (hitem : f.item.error = "") (ctx : Context)
    (ending : Walk.Ending) : (f.report ctx ending).error ≠ "" ↔ ending ≠ .completed := by
  cases ending with
  | completed => simpa [report, obtained] using hitem
  | stopped => simp [report, ConsentItem.failed, stoppedReason]
  | failed test result => simp [report, ConsentItem.failed, failedReason]

/-- An item that tells of a failure tells nothing else. -/
theorem report_blank {f : ConsentFlow} {name permissions : String}
    (hitem : f.item = .new name permissions) {ctx : Context} {ending : Walk.Ending}
    (h : ending ≠ .completed) :
    (f.report ctx ending).consentId = "" ∧ (f.report ctx ending).consentUrl = "" ∧
      (f.report ctx ending).clientAccessToken = "" := by
  have hfailed : ∃ reason, f.report ctx ending = f.item.failed reason := by
    cases ending with
    | completed => exact absurd rfl h
    | stopped => exact ⟨_, rfl⟩
    | failed test result => exact ⟨_, rfl⟩
  obtain ⟨reason, hreport⟩ := hfailed
  rw [hreport, hitem]
  exact ⟨rfl, rfl, rfl⟩

variable [Idna]

/-! ## What a move keeps -/

/-- What holds of a flow at any moment. -/
structure Stands (f : ConsentFlow) (c : Course) : Prop where
  flow : c.flow = f
  halts : c.course.walk.haltsOnFailure = true
  walk : c.course.Stands f.ctx f.component.tests
  /-- While the flow is there it has offered nothing. -/
  there : c.gone = false → c.offered = []
  /-- When it is gone its walk has ended, and it has offered what it reports of that. -/
  gone : c.gone = true → ∃ ending, c.course.walk.place = .ended ending ∧
    c.offered = [f.report c.course.walk.ctx ending]

theorem start_stands (f : ConsentFlow) : Stands f (start f) where
  flow := rfl
  halts := rfl
  walk := Walk.Course.start_stands true f.ctx f.component.tests
  there := fun _ => rfl
  gone := nofun

variable {f : ConsentFlow} {c : Course}

theorem step_gone (h : c.gone = true) (m : Walk.Move) : c.step m = c := by
  unfold step
  rw [if_pos h]

theorem play_gone (h : c.gone = true) (moves : List Walk.Move) : c.play moves = c := by
  induction moves with
  | nil => rfl
  | cons m rest ih =>
      have hplay : c.play (m :: rest) = (c.step m).play rest := rfl
      rw [hplay, step_gone h, ih]

/-- What a move of a flow that is there does: it moves the walk, or it ends the flow. -/
theorem step_cases (h : c.gone = false) (m : Walk.Move) :
    c.step m = { c with course := c.course.step m } ∨
      ∃ ending, c.course.walk.place = .ended ending ∧
        c.step m = { c with
          gone := true, offered := c.offered ++ [c.flow.report c.course.walk.ctx ending] } := by
  unfold step
  rw [if_neg (by simp [h])]
  split
  next ending _ hplace => exact .inr ⟨ending, hplace, rfl⟩
  · exact .inl rfl

theorem step_before (h : c.gone = false) {rest : List TestCase}
    (hplace : c.course.walk.place = .before rest) (m : Walk.Move) :
    c.step m = { c with course := c.course.step m } := by
  rcases step_cases h m with heq | ⟨ending, hended, -⟩
  · exact heq
  · rw [hplace] at hended
    cases hended

theorem step_at (h : c.gone = false) {trial : Trial} {rest : List TestCase}
    (hplace : c.course.walk.place = .at trial rest) (m : Walk.Move) :
    c.step m = { c with course := c.course.step m } := by
  rcases step_cases h m with heq | ⟨ending, hended, -⟩
  · exact heq
  · rw [hplace] at hended
    cases hended

theorem step_last (h : c.gone = false) {ending : Walk.Ending}
    (hended : c.course.walk.place = .ended ending) (stopped : Bool) :
    c.step (.advance stopped) = { c with
      gone := true, offered := c.offered ++ [c.flow.report c.course.walk.ctx ending] } := by
  simp only [step, h, hended, Bool.false_eq_true, if_false]

theorem Stands.step (h : Stands f c) (m : Walk.Move) : Stands f (c.step m) := by
  cases hgone : c.gone with
  | true =>
      rw [step_gone hgone]
      exact h
  | false =>
      rcases step_cases hgone m with heq | ⟨ending, hplace, heq⟩ <;> rw [heq]
      · refine ⟨h.flow, ?_, h.walk.step m, h.there, fun hg => ?_⟩
        · rw [← h.halts]
          exact c.course.halts_step m
        · rw [hgone] at hg
          cases hg
      · refine ⟨h.flow, h.halts, h.walk, nofun, fun _ => ⟨ending, hplace, ?_⟩⟩
        dsimp only
        rw [h.there hgone, h.flow, List.nil_append]

theorem Stands.play (h : Stands f c) (moves : List Walk.Move) : Stands f (c.play moves) := by
  induction moves generalizing c with
  | nil => exact h
  | cons m rest ih => exact ih (h.step m)

/-! ## Every flow comes to its end -/

/-- One round: the flow is let go on, and a request at which it rests then is answered. -/
abbrev Round := Bool × Option SchemaCheck × Answer

/-- The moves of a round. -/
def Round.moves (r : Round) : List Walk.Move := [.advance r.1, .receive r.2.1 r.2.2]

/-- How many steps a flow can still take. -/
def left (c : Course) : Nat := if c.gone then 0 else c.course.walk.steps

theorem left_step_le (c : Course) (m : Walk.Move) : (c.step m).left ≤ c.left := by
  cases hgone : c.gone with
  | true =>
      exact Nat.le_of_eq (congrArg left (step_gone hgone m))
  | false =>
      rcases step_cases hgone m with heq | ⟨ending, -, heq⟩ <;> rw [heq]
      · unfold left
        simpa [hgone] using c.course.steps_step_le m
      · exact Nat.zero_le _

theorem left_play_le (c : Course) (moves : List Walk.Move) : (c.play moves).left ≤ c.left := by
  induction moves generalizing c with
  | nil => exact Nat.le_refl _
  | cons m rest ih => exact Nat.le_trans (ih (c.step m)) (c.left_step_le m)

/-- A round takes a flow that is there forward: it takes up a step or comes to its end when it is let
go on, or else it rests at a request, which is answered. -/
theorem left_round_lt (h : c.gone = false) (r : Round) : (c.play r.moves).left < c.left := by
  have hleft : c.left = c.course.walk.steps := by
    simp [left, h]
  have hplay : c.play r.moves = (c.step (.advance r.1)).step (.receive r.2.1 r.2.2) := rfl
  rw [hplay, hleft]
  cases hplace : c.course.walk.place with
  | before rest =>
      refine Nat.lt_of_le_of_lt (left_step_le _ _) ?_
      have hstep := Walk.steps_advance hplace r.1
      simpa [step, left, h, hplace, Walk.Course.step] using hstep
  | «at» trial rest =>
      have hvoid : c.step (.advance r.1) = c := by
        have hcourse : c.course.step (.advance r.1) = c.course := by
          simp only [Walk.Course.step, hplace]
        rw [step_at h hplace, hcourse]
      rw [hvoid]
      have hstep := Walk.steps_receive hplace r.2.1 r.2.2
      simpa [step, left, h, hplace, Walk.Course.step] using hstep
  | ended ending =>
      refine Nat.lt_of_le_of_lt (left_step_le _ _) ?_
      simpa [step, left, h, hplace] using c.course.walk.steps_pos

/-- After as many rounds as it can still take steps, a flow has come to its end. -/
theorem gone_of_rounds {rounds : List Round} (h : c.left ≤ rounds.length) :
    (c.play (rounds.flatMap Round.moves)).gone = true := by
  induction rounds generalizing c with
  | nil =>
      have hpos := c.course.walk.steps_pos
      by_contra hgone
      have hleft : c.left = c.course.walk.steps := if_neg hgone
      rw [List.length_nil] at h
      omega
  | cons r rest ih =>
      have hplay : c.play ((r :: rest).flatMap Round.moves) =
          (c.play r.moves).play (rest.flatMap Round.moves) := by
        rw [List.flatMap_cons, play, List.foldl_append]
        rfl
      rw [hplay]
      cases hgone : c.gone with
      | true => rw [play_gone hgone, play_gone hgone, hgone]
      | false =>
          have hless := left_round_lt hgone r
          rw [List.length_cons] at h
          exact ih (by omega)

/-! ## What it offers -/

/-- A flow whose walk has ended executes nothing more. -/
theorem course_play_of_ended {ending : Walk.Ending} (h : c.course.walk.place = .ended ending)
    (moves : List Walk.Move) : (c.play moves).course = c.course := by
  induction moves generalizing c with
  | nil => rfl
  | cons m rest ih =>
      have hstep : (c.step m).course = c.course := by
        cases hgone : c.gone with
        | true => rw [step_gone hgone]
        | false =>
            rcases step_cases hgone m with heq | ⟨_, _, heq⟩ <;> rw [heq]
            exact Walk.Course.step_ended h m
      have hplay : c.play (m :: rest) = (c.step m).play rest := rfl
      rw [hplay, ih (by rw [hstep]; exact h), hstep]

/-- What was offered is what the flow reports of the end of its walk. -/
theorem Stands.mem_offered (h : Stands f c) {i : ConsentItem} (hi : i ∈ c.offered) :
    ∃ ending, c.course.walk.place = .ended ending ∧ i = f.report c.course.walk.ctx ending := by
  cases hgone : c.gone with
  | false =>
      rw [h.there hgone] at hi
      cases hi
  | true =>
      obtain ⟨ending, hended, hoffered⟩ := h.gone hgone
      rw [hoffered] at hi
      exact ⟨ending, hended, List.mem_singleton.mp hi⟩

theorem Stands.offered_length (h : Stands f c) : c.offered.length = if c.gone then 1 else 0 := by
  cases hgone : c.gone with
  | false => rw [h.there hgone]; rfl
  | true =>
      obtain ⟨ending, -, hoffered⟩ := h.gone hgone
      rw [hoffered]
      rfl

/-- What holds at any moment of a flow over the steps of a component that was started for a token. -/
structure OneItem (component : Component) (name permissions : String) (c : Course) : Prop where
  /-- The steps that were executed are the first ones of the component. -/
  executed_prefix : c.course.begun <+: component.tests
  /-- Each of them has had one result reported, in order; only a step at whose request the flow
  rests has none yet. -/
  one_result : ∃ done, c.course.begun = done ++ (c.course.walk.trial?.map (·.test)).toList ∧
    List.Forall₂ TestResult.Of c.course.results done
  /-- Nothing is executed after a failed step, or after a stop was seen. -/
  none_after : (∃ r ∈ c.course.results, r.pass = false) ∨ c.course.sawStop = true →
    ∀ moves, (c.play moves).course.begun = c.course.begun
  /-- The flow offers no second item. -/
  at_most_one : c.offered.length ≤ 1
  /-- It has offered one after two rounds for each step of the component, and two more. -/
  one_in_time : ∀ rounds : List Round, 2 * component.tests.length + 2 ≤ rounds.length →
    (c.play (rounds.flatMap Round.moves)).offered.length = 1
  /-- The item is that of the token. -/
  for_token : ∀ i ∈ c.offered, i.tokenName = name ∧ i.permissions = permissions
  /-- It tells of a failure when a step has failed or a stop was seen too early, and else all steps
  have been executed. -/
  error_iff : ∀ i ∈ c.offered, i.error ≠ "" ↔ (∃ r ∈ c.course.results, r.pass = false) ∨
    (c.course.sawStop = true ∧ c.course.begun.length < component.tests.length)
  executed_all : ∀ i ∈ c.offered, i.error = "" → c.course.begun = component.tests
  /-- An item that tells of a failure tells nothing else. -/
  error_blank : ∀ i ∈ c.offered, i.error ≠ "" →
    i.consentId = "" ∧ i.consentUrl = "" ∧ i.clientAccessToken = ""

/-- **One item for each flow.** Whatever the steps of its component, its token and the context that it
begins with, whatever the answers that it gets and whenever it is asked to stop: a flow executes the
first steps of its component, each with one result, none after a failed one or after a stop; and it
offers one item for its token, which tells of a failure exactly when one of those has kept it from
executing all steps. -/
theorem play_one_item (component : Component) (ctx : Context) (name permissions : String)
    (moves : List Walk.Move) : OneItem component name permissions
      ((start ⟨component, .new name permissions, ctx⟩).play moves) := by
  have h := (start_stands ⟨component, .new name permissions, ctx⟩).play moves
  have hleft := (start ⟨component, .new name permissions, ctx⟩).left_play_le moves
  generalize (start ⟨component, .new name permissions, ctx⟩).play moves = c at h hleft
  refine ⟨h.walk.begun_prefix, h.walk.one_result, ?_, ?_, ?_, ?_, ?_, ?_, ?_⟩
  · intro hcause moves'
    obtain ⟨ending, hended⟩ := h.walk.ended_of_halted h.halts hcause
    rw [course_play_of_ended hended]
  · rw [h.offered_length]
    split <;> decide
  · intro rounds hrounds
    have hgone := gone_of_rounds (Nat.le_trans hleft hrounds)
    rw [(h.play _).offered_length, hgone]
    rfl
  · intro i hi
    obtain ⟨ending, -, rfl⟩ := h.mem_offered hi
    cases ending <;> exact ⟨rfl, rfl⟩
  · intro i hi
    obtain ⟨ending, hended, rfl⟩ := h.mem_offered hi
    rw [report_error_iff rfl]
    exact h.walk.ended_early_iff h.halts hended
  · intro i hi herror
    obtain ⟨ending, hended, rfl⟩ := h.mem_offered hi
    have hcompleted : ending = .completed := by
      by_contra hne
      exact (report_error_iff rfl _ ending).mpr hne herror
    exact (h.walk.passed_all h.halts (hcompleted ▸ hended)).1
  · intro i hi herror
    obtain ⟨ending, -, rfl⟩ := h.mem_offered hi
    exact report_blank rfl ((report_error_iff rfl _ ending).mp herror)

end Course

end Conformance.ConsentFlow
