import Conformance.Proofs.Walk
import Conformance.Rehearsal

/-!
# What is said of turns

Whatever is said of a turn of a rehearsal is said of the few things that happen in it: a walk goes on,
its request is sent and answered, and in the end it rests or is brought to its end. A `TurnRule` says
what these keep; `TurnRule.turn` draws the conclusion for the turn.
-/

namespace Conformance.Rehearsal

variable {role : Player.Role} {w : Walk} {r : Rehearsal}

/-- An answer takes a walk forward, if it rests at a request. -/
theorem steps_answer_lt {trial : Trial} {rest : List TestCase} (hplace : w.place = .at trial rest)
    (r : Rehearsal) (a : Answer) : (r.answer w a).1.steps < w.steps := by
  rw [answer, hplace]
  exact Walk.steps_receive hplace r.schemas a

theorem steps_answer_le (r : Rehearsal) (w : Walk) (a : Answer) :
    (r.answer w a).1.steps ≤ w.steps := by
  unfold answer
  split
  next hplace => exact Nat.le_of_lt (Walk.steps_receive hplace r.schemas a)
  · exact Nat.le_refl _

/-- What holds while a walk is going in a turn, while its request is sent and not yet answered, and
when the turn is over. -/
structure TurnRule [Idna] (role : Player.Role) (Going Waiting : Walk → Rehearsal → Prop)
    (Over : Rehearsal → Prop) : Prop where
  /-- The walk goes on. -/
  advance : ∀ {w r rest}, Going w r → w.place = .before rest →
    Going (w.advance r.controller.stopped).2
      ((r.note (r.beginningNotes role w)).report (w.advance r.controller.stopped).1)
  /-- Its request is sent. -/
  send : ∀ {w r trial rest}, Going w r → w.place = .at trial rest →
    Waiting w (r.send trial.request).2
  /-- It gets an answer. -/
  answer : ∀ {w r} (a : Answer), Waiting w r → Going (r.answer w a).1 (r.answer w a).2
  /-- It rests until its answer comes. -/
  rest : ∀ {w r trial rest} (due order : Nat) (a : Answer), Waiting w r →
    w.place = .at trial rest → Over { r with
      players := r.players ++ [⟨role, w, .until due order a⟩]
      delayed := r.delayed + 1 }
  /-- It is brought to its end. -/
  finish : ∀ {w r ending}, Going w r → w.place = .ended ending → Over (r.finish role w.ctx ending)

variable {Going Waiting : Walk → Rehearsal → Prop} {Over : Rehearsal → Prop}

theorem TurnRule.proceed [Idna] (rule : TurnRule role Going Waiting Over) {fuel : Nat}
    (h : Going w r) (hfuel : w.steps ≤ fuel) : Over (proceed fuel role w r) := by
  -- Every move leaves the walk with fewer steps, so the bound is never the reason to stop.
  induction fuel generalizing r w with
  | zero => exact absurd w.steps_pos (Nat.not_lt.mpr hfuel)
  | succ fuel ih =>
      unfold Rehearsal.proceed
      split
      next rest hplace =>
        have hless := Walk.steps_advance hplace r.controller.stopped
        have hover := ih (rule.advance h hplace) (by omega)
        exact hover
      next trial rest hplace =>
        have hwaiting := rule.send h hplace
        dsimp only
        split
        · have hless := steps_answer_lt hplace (r.send trial.request).2
            (r.send trial.request).1.answer
          have hover := ih (rule.answer (r.send trial.request).1.answer hwaiting) (by omega)
          exact hover
        · exact rule.rest _ _ _ hwaiting hplace
      next ending hplace => exact rule.finish h hplace

/-- A turn begins where its player has rested, at an answer that has come by then, or afresh. -/
theorem TurnRule.turn [Idna] {p : Player} (rule : TurnRule p.role Going Waiting Over)
    (hfresh : p.pause = .fresh → Going p.walk r)
    (hwaits : ∀ due order a, p.pause = .until due order a → Waiting p.walk { r with now := due }) :
    Over (r.turn p) := by
  have hfuel := p.walk.steps_le_remaining
  unfold Rehearsal.turn
  split
  next hpause => exact rule.proceed (hfresh hpause) hfuel
  next due order a hpause =>
    have hsteps := steps_answer_le { r with now := due } p.walk a
    exact rule.proceed (rule.answer a (hwaits due order a hpause)) (Nat.le_trans hsteps hfuel)

end Conformance.Rehearsal
