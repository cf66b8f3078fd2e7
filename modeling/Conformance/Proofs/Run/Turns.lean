import Conformance.Proofs.Except
import Conformance.Proofs.Rehearsal
import Conformance.Proofs.Run.Course

/-!
# The turns of a run

What is proved of the course of a run holds of the runs that a rehearsal plays. `turn_plays_run`: in its
turn a run makes moves of its course, and then it rests where its course stands, or is gone.
`startRun_plays`: so a run that is started when nothing else goes on is always at a moment of its
course, and when it is gone it has left the context of that moment.
-/

namespace Conformance.RunDefinition.Course

variable {before r r₁ : Rehearsal} {c : Course} {w : Walk}

/-- A rehearsal shows the run of a course: the owner has what it has reported. -/
structure Shown (r : Rehearsal) (c : Course) : Prop where
  schemas : c.schemas = r.schemas
  controller : c.controller = r.controller
  looked : c.looked = none
  there : c.gone = false

/-- A run on its turn, which was taken `before`: only what it reports has changed since then. -/
structure OnTurn (before : Rehearsal) (w : Walk) (r : Rehearsal) (c : Course) : Prop
    extends Shown r c where
  walk : w = c.course.walk
  players : r.players = before.players
  contexts : r.contexts = before.contexts

/-- How a turn ends for a run. -/
inductive Left (before r : Rehearsal) (c : Course) : Prop
  /-- It rests where its course stands. -/
  | resting (p : Player) (hrole : p.role = .run) (hwalk : p.walk = c.course.walk)
      (hshown : Shown r c) (hplayers : r.players = before.players ++ [p])
      (hcontexts : r.contexts = before.contexts)
  /-- It is gone, and has left its context. -/
  | gone (hgone : c.gone = true) (hcontroller : c.controller = r.controller)
      (hplayers : r.players = before.players)
      (hcontexts : r.contexts = before.contexts ++ [c.course.walk.ctx])

/-! ## What happens in a turn -/

section

variable [Idna]

/-- A run that goes on at once sees the flag as it is. -/
theorem play_look_go {rest : List TestCase} (hplace : c.course.walk.place = .before rest)
    (hlooked : c.looked = none) :
    c.play [.look, .go] = c.moved (.advance c.controller.stopped) := by
  cases rest with
  | nil =>
      -- With no test case left the flag is not looked at, and it makes no difference.
      have hsame : ∀ stopped, c.course.step (.advance stopped) = c.course.step (.advance false) := by
        intro stopped
        simp [Walk.Course.step, hplace, Walk.advance_nil hplace]
      have hnone : ∀ stopped, c.course.outcome (.advance stopped) = none := by
        intro stopped
        rw [Walk.Course.outcome, Walk.advance_nil hplace]
      simp [play, step, hplace, moved, hsame c.controller.stopped, hnone]
  | cons test rest => simp [play, step, hplace, hlooked, moved]

/-- What the walk of a run comes to is reported in the rehearsal as in the course. -/
theorem OnTurn.moved (h : OnTurn before w r c) {m : Walk.Move} {next : Walk}
    (hnext : next = (c.course.step m).walk) (notes : List RunNote) :
    OnTurn before next ((r.note notes).report (c.course.outcome m)) (c.moved m) := by
  unfold Course.moved Rehearsal.report Rehearsal.note
  cases c.course.outcome m with
  | none => exact { h with looked := rfl, walk := hnext }
  | some result =>
      have hcontroller := congrArg (·.report result) h.controller
      exact { h with controller := hcontroller, looked := rfl, walk := hnext }

theorem OnTurn.advance (h : OnTurn before w r c) {rest : List TestCase}
    (hplace : w.place = .before rest) (notes : List RunNote) :
    OnTurn before (w.advance r.controller.stopped).2
      ((r.note notes).report (w.advance r.controller.stopped).1) (c.play [.look, .go]) := by
  obtain rfl := h.walk
  have hnext : (c.course.walk.advance r.controller.stopped).2 =
      (c.course.step (.advance c.controller.stopped)).walk := by
    rw [Walk.Course.step, hplace, h.controller]
  have hmoved := h.moved hnext notes
  rw [Walk.Course.outcome, h.controller] at hmoved
  rwa [play_look_go hplace h.looked, h.controller]

/-- While its request is sent a run may be asked to stop. -/
theorem OnTurn.send (h : OnTurn before w r c) (request : PreparedRequest) :
    ∃ moves, OnTurn before w (r.send request).2 (c.play moves) := by
  unfold Rehearsal.send
  dsimp only
  split
  · exact ⟨[.stop], { h with controller := congrArg Controller.stop h.controller }⟩
  · exact ⟨[], { h with }⟩

theorem OnTurn.answer (h : OnTurn before w r c) (a : Answer) :
    ∃ moves, OnTurn before (r.answer w a).1 (r.answer w a).2 (c.play moves) := by
  obtain rfl := h.walk
  unfold Rehearsal.answer
  split
  next trial rest hplace =>
    have hplay : c.play [.receive a] = c.moved (.receive c.schemas a) := by
      simp only [play, List.foldl_cons, List.foldl_nil, step, hplace]
    have hnext : (c.course.walk.receive r.schemas a).2 =
        (c.course.step (.receive c.schemas a)).walk := by
      rw [Walk.Course.step, hplace, h.schemas]
    have hmoved := h.moved hnext (((c.course.walk.receive r.schemas a).1.map
      (RunNote.ofAnswer trial.test a)).getD [])
    rw [Walk.Course.outcome, h.schemas] at hmoved
    refine ⟨[.receive a], ?_⟩
    rw [hplay, h.schemas]
    exact hmoved
  · exact ⟨[], h⟩

/-- A run that has ended says so, and leaves its context. -/
theorem OnTurn.finish (h : OnTurn before w r c) {ending : Walk.Ending}
    (hplace : w.place = .ended ending) :
    Left before (r.finish .run w.ctx ending) (c.play [.go]) := by
  obtain rfl := h.walk
  have hplay : c.play [.go] = { c with gone := true, controller := c.controller.complete } := by
    simp [play, step, hplace, h.there]
  rw [hplay]
  refine .gone rfl (congrArg Controller.complete h.controller) h.players ?_
  exact congrArg (· ++ [c.course.walk.ctx]) h.contexts

/-- What is said of the turns of a run: it is always at a moment of its course. -/
theorem turnRule (before : Rehearsal) (c : Course) :
    Rehearsal.TurnRule .run (fun w r => ∃ moves, OnTurn before w r (c.play moves))
      (fun w r => ∃ moves, OnTurn before w r (c.play moves))
      (fun r => ∃ moves, Left before r (c.play moves)) where
  advance := by
    rintro w r rest ⟨moves, h⟩ hplace
    refine ⟨moves ++ [.look, .go], ?_⟩
    rw [play_append]
    exact h.advance hplace _
  send := by
    rintro w r trial rest ⟨moves, h⟩ -
    obtain ⟨later, h'⟩ := h.send trial.request
    exact ⟨moves ++ later, by rwa [play_append]⟩
  answer := by
    rintro w r a ⟨moves, h⟩
    obtain ⟨later, h'⟩ := h.answer a
    exact ⟨moves ++ later, by rwa [play_append]⟩
  rest := by
    rintro w r trial rest due order a ⟨moves, h⟩ -
    have hplayers := congrArg (· ++ [(⟨.run, w, .until due order a⟩ : Player)]) h.players
    exact ⟨moves, .resting ⟨.run, w, .until due order a⟩ rfl h.walk { h with } hplayers h.contexts⟩
  finish := by
    rintro w r ending ⟨moves, h⟩ hplace
    refine ⟨moves ++ [.go], ?_⟩
    rw [play_append]
    exact h.finish hplace

/-- **The turn of a run.** A run whose turn it is makes moves of its course: the owner has the results
that come of them, and the run rests again where its course stands, or it is gone and has left the
context of that moment. -/
theorem turn_plays_run {p : Player} (hrole : p.role = .run) (hwalk : p.walk = c.course.walk)
    (hshown : Shown r c) : ∃ moves, Left r (r.turn p) (c.play moves) := by
  have rule := turnRule r c
  rw [← hrole] at rule
  exact rule.turn (fun _ => ⟨[], hshown, hwalk, rfl, rfl⟩)
    (fun _ _ _ _ => ⟨[], { hshown with }, hwalk, rfl, rfl⟩)

end

/-! ## A run on its own -/

/-- A rehearsal in which nothing goes on but one run: that rests where its course stands, or it is gone
and has left its context after the `earlier` ones. -/
inductive Alone (earlier : List Context) (r : Rehearsal) (c : Course) : Prop
  | resting (p : Player) (hrole : p.role = .run) (hwalk : p.walk = c.course.walk)
      (hshown : Shown r c) (hplayers : r.players = [p]) (hcontexts : r.contexts = earlier)
  | gone (hgone : c.gone = true) (hcontroller : c.controller = r.controller)
      (hplayers : r.players = []) (hcontexts : r.contexts = earlier ++ [c.course.walk.ctx])

variable {earlier : List Context}

theorem Left.alone (h : Left before r c) (hplayers : before.players = [])
    (hcontexts : before.contexts = earlier) : Alone earlier r c := by
  cases h with
  | resting p hrole hwalk hshown hplayers' hcontexts' =>
      rw [hplayers] at hplayers'
      exact .resting p hrole hwalk hshown hplayers' (hcontexts'.trans hcontexts)
  | gone hgone hcontroller hplayers' hcontexts' =>
      rw [hcontexts] at hcontexts'
      exact .gone hgone hcontroller (hplayers'.trans hplayers) hcontexts'

theorem Alone.later (h : Alone earlier r c) (now : Nat) : Alone earlier { r with now := now } c := by
  cases h with
  | resting p hrole hwalk hshown hplayers hcontexts =>
      exact .resting p hrole hwalk { hshown with } hplayers hcontexts
  | gone hgone hcontroller hplayers hcontexts => exact .gone hgone hcontroller hplayers hcontexts

theorem playTurns_alone [Idna] (h : Alone earlier r c) (deadline : Option Nat)
    (done : Rehearsal → Bool) (fuel : Nat) :
    ∃ moves, Alone earlier (Rehearsal.playTurns deadline done fuel r) (c.play moves) := by
  induction fuel generalizing r c with
  | zero => exact ⟨[], h⟩
  | succ fuel ih =>
      have hlater := h.later (deadline.getD r.now)
      unfold Rehearsal.playTurns
      split
      · exact ⟨[], h⟩
      · cases h with
        | gone hgone hcontroller hplayers hcontexts =>
            have hnext : Rehearsal.next? r.players = none := by rw [hplayers]; rfl
            rw [hnext]
            exact ⟨[], hlater⟩
        | resting p hrole hwalk hshown hplayers hcontexts =>
            have hnext : Rehearsal.next? r.players = some (p, []) := by rw [hplayers]; rfl
            rw [hnext]
            dsimp only
            split
            · have hshown' : Shown { r with players := [] } c := { hshown with }
              obtain ⟨moves, hleft⟩ := turn_plays_run hrole hwalk hshown'
              obtain ⟨later, halone⟩ := ih (hleft.alone rfl hcontexts)
              exact ⟨moves ++ later, by rwa [play_append]⟩
            · exact ⟨[], hlater⟩

/-- **A run on its own.** A run that is started when nothing else goes on makes moves of its course,
whenever turns have passed: the owner has what the course has reported, and when the run is gone it has
left the context of that moment. -/
theorem startRun_plays [Idna] {ctx : Context} (hidle : r.players = []) (hstart : r.startRun ctx = .ok r₁)
    (deadline : Option Nat) (done : Rehearsal → Bool) :
    ∃ moves, Alone r.contexts (r₁.playUntil deadline done)
      ((start r.definition ctx r.schemas r.controller).play moves) := by
  unfold Rehearsal.startRun at hstart
  obtain ⟨runner, -, hstarted⟩ := Except.bind_eq_ok_iff.mp hstart
  cases hstarted
  rw [hidle, List.nil_append]
  refine playTurns_alone ?_ _ _ _
  exact .resting _ rfl rfl ⟨rfl, rfl, rfl, rfl⟩ rfl rfl

end Conformance.RunDefinition.Course
