import Conformance.Proofs.Except
import Conformance.Proofs.Rehearsal
import Conformance.Proofs.Runner.Exclusion

/-!
# The runner of a rehearsal

What is proved of the scenes of a runner holds of the runner of a rehearsal. `startRun_shows` and
`startFlow_shows`: what is started in a rehearsal has made a start and was set up; `turn_shows`: a turn
is some of the moves of the run or flow whose turn it is. `reached_shows`: so whatever is started, and
whenever turns pass, the rehearsal is one of the interleavings of its runner, and never has two players
(`one_player`).
-/

namespace Conformance.Runner.Scene

open Rehearsal (playTurns)

variable {r r' : Rehearsal} {s : Scene} {role : Player.Role} {w : Walk}

/-- What a player is for the runner. -/
def holderOf (p : Player) : Holder := .carriesOut p.role p.walk

/-- A scene and a rehearsal in which nobody listens have all in common but those who hold the guard. -/
structure Alike (r : Rehearsal) (s : Scene) : Prop where
  definition : s.definition = r.definition
  schemas : s.schemas = r.schemas
  runner : s.runner = r.runner
  controller : s.controller = r.controller
  channel : s.channel = r.channel
  quiet : r.listening = false

/-- A scene shows a rehearsal: its players are those who hold the guard. -/
structure Shows (r : Rehearsal) (s : Scene) : Prop where
  alike : Alike r s
  holders : s.holders = r.players.map holderOf

theorem play_append [Idna] (s : Scene) (moves later : List Move) :
    s.play (moves ++ later) = (s.play moves).play later := List.foldl_append

/-! ## Starting -/

theorem acquire_eq_ok {runner next : Runner} (h : runner.acquire = .ok next) :
    runner.running = false ∧ next = { runner with running := true } := by
  unfold acquire at h
  split at h <;> cases h
  next hfree => exact ⟨Bool.eq_false_iff.mpr hfree, rfl⟩

/-- A start that is set up at once. -/
theorem play_start [Idna] (hs : Guarded s) (hfree : s.runner.running = false) {start : Start}
    {ctx : Context} (hsetUp : start.setUp s.definition ctx = .ok (role, w)) :
    s.play [.write ctx, .attempt start, .act 0 .setUp] = { s with
      ctx := ctx
      runner := { s.runner with running := true }
      holders := [.carriesOut role w] } := by
  simp only [play, List.foldl_cons, List.foldl_nil, step, acquire_of_idle hfree,
    hs.holders_eq_nil hfree, List.nil_append, List.getElem?_cons_zero, act, hsetUp]
  rfl

/-- What is started in a rehearsal whose runner is free has been set up. -/
theorem started_shows [Idna] (hs : Guarded s) (h : Shows r s) (hfree : r.runner.running = false)
    {start : Start} {ctx : Context} (hsetUp : start.setUp r.definition ctx = .ok (role, w)) :
    Shows { r with
      runner := { r.runner with running := true }
      players := r.players ++ [{ role := role, walk := w }] }
      (s.play [.write ctx, .attempt start, .act 0 .setUp]) := by
  rw [← h.alike.runner] at hfree
  rw [← h.alike.definition] at hsetUp
  have hnone : r.players = [] := by
    rw [← List.map_eq_nil_iff, ← h.holders]
    exact hs.holders_eq_nil hfree
  rw [play_start hs hfree hsetUp, hnone]
  refine ⟨{ h.alike with runner := ?_ }, rfl⟩
  exact congrArg (fun runner : Runner => { runner with running := true }) h.alike.runner

theorem startRun_shows [Idna] (hs : Guarded s) (h : Shows r s) {ctx : Context}
    (hstart : r.startRun ctx = .ok r') :
    Shows r' (s.play [.write ctx, .attempt .run, .act 0 .setUp]) := by
  unfold Rehearsal.startRun at hstart
  obtain ⟨runner, hacquire, hstarted⟩ := Except.bind_eq_ok_iff.mp hstart
  cases hstarted
  obtain ⟨hfree, rfl⟩ := acquire_eq_ok hacquire
  exact started_shows hs h hfree rfl

theorem startFlow_shows [Idna] (hs : Guarded s) (h : Shows r s) {item : ConsentItem} {ctx : Context}
    {acquisition : Acquisition} (hstart : r.startFlow item ctx acquisition = .ok r') :
    Shows r' (s.play [.write ctx, .attempt (.flow item (.ok acquisition.component)),
      .act 0 .setUp]) := by
  unfold Rehearsal.startFlow at hstart
  obtain ⟨⟨flow, runner⟩, hbegin, hstarted⟩ := Except.bind_eq_ok_iff.mp hstart
  cases hstarted
  unfold ConsentFlow.begin at hbegin
  obtain ⟨next, hacquire, hbegin⟩ := Except.bind_eq_ok_iff.mp hbegin
  obtain ⟨hfree, rfl⟩ := acquire_eq_ok hacquire
  split at hbegin
  next hflow =>
    cases hbegin
    exact started_shows hs h hfree
      (Except.bind_eq_ok_iff.mpr ⟨_, rfl, Except.bind_eq_ok_iff.mpr ⟨_, hflow, rfl⟩⟩)
  · cases hbegin

/-! ## Turns -/

/-- The turn of a run or flow: nobody else plays, and it holds the guard. -/
structure OnTurn (r : Rehearsal) (s : Scene) (role : Player.Role) (w : Walk) : Prop where
  alike : Alike r s
  players : r.players = []
  holders : s.holders = [.carriesOut role w]

/-- A run or flow on its turn goes on, and reports a result if it has one. -/
theorem OnTurn.goes_on (h : OnTurn r s role w) (notes : List RunNote) (result : Option TestResult)
    (next : Walk) : OnTurn ((r.note notes).report result)
      ((s.report result).goOn 0 (.carriesOut role next)) role next := by
  have hholders : (s.holders.set 0 (.carriesOut role next)) = [.carriesOut role next] := by
    rw [h.holders]
    rfl
  cases result with
  | none => exact ⟨{ h.alike with }, h.players, hholders⟩
  | some result =>
      exact ⟨{ h.alike with controller := congrArg (·.report result) h.alike.controller },
        h.players, hholders⟩

/-- What one on its turn does, as the only holder of the guard. -/
theorem OnTurn.step_act [Idna] (h : OnTurn r s role w) (a : Act) :
    s.step (.act 0 a) = s.act 0 (.carriesOut role w) a := by
  simp only [step, h.holders, List.getElem?_cons_zero]

theorem OnTurn.advance [Idna] (h : OnTurn r s role w) (notes : List RunNote) :
    OnTurn ((r.note notes).report (w.advance r.controller.stopped).1)
      (s.play [.act 0 .advance]) role (w.advance r.controller.stopped).2 := by
  have hplay : s.play [.act 0 .advance] = s.act 0 (.carriesOut role w) .advance := h.step_act _
  rw [hplay, ← h.alike.controller]
  exact h.goes_on notes _ _

theorem OnTurn.answer [Idna] (h : OnTurn r s role w) (a : Answer) :
    ∃ moves, OnTurn (r.answer w a).2 (s.play moves) role (r.answer w a).1 := by
  unfold Rehearsal.answer
  split
  · have hplay : s.play [.act 0 (.receive a)] = s.act 0 (.carriesOut role w) (.receive a) :=
      h.step_act _
    refine ⟨[.act 0 (.receive a)], ?_⟩
    rw [hplay, ← h.alike.schemas]
    exact h.goes_on _ _ _
  · exact ⟨[], h⟩

theorem OnTurn.send [Idna] (h : OnTurn r s role w) (request : PreparedRequest) :
    ∃ moves, OnTurn (r.send request).2 (s.play moves) role w := by
  unfold Rehearsal.send
  dsimp only
  split
  · exact ⟨[.stop], { h.alike with controller := congrArg Controller.stop h.alike.controller },
      h.players, h.holders⟩
  · exact ⟨[], { h.alike with }, h.players, h.holders⟩

/-- A run or flow that has ended tells its end and gives the guard back. -/
theorem OnTurn.play_finish [Idna] (h : OnTurn r s role w) {ending : Walk.Ending}
    (hplace : w.place = .ended ending) :
    s.play [.act 0 .conclude, .act 0 .leave] =
      { s.tell w.ctx ending role with runner := s.runner.release, holders := [] } := by
  have hconclude : s.step (.act 0 .conclude) = (s.tell w.ctx ending role).goOn 0 .leaving := by
    rw [h.step_act]
    simp only [act, hplace]
  have hleaving : ((s.tell w.ctx ending role).goOn 0 .leaving).holders = [.leaving] := by
    cases role <;> simp only [goOn, tell, h.holders, List.set_cons_zero]
  have hleave : ((s.tell w.ctx ending role).goOn 0 .leaving).step (.act 0 .leave) =
      ((s.tell w.ctx ending role).goOn 0 .leaving).giveBack 0 := by
    simp only [step, hleaving, List.getElem?_cons_zero, act]
  have hplay : s.play [.act 0 .conclude, .act 0 .leave] =
      (s.step (.act 0 .conclude)).step (.act 0 .leave) := rfl
  rw [hplay, hconclude, hleave, giveBack, hleaving]
  cases role <;> rfl

theorem OnTurn.finish [Idna] (h : OnTurn r s role w) {ending : Walk.Ending}
    (hplace : w.place = .ended ending) :
    Shows (r.finish role w.ctx ending) (s.play [.act 0 .conclude, .act 0 .leave]) := by
  rw [h.play_finish hplace]
  have hholders : [] = r.players.map holderOf := by
    rw [h.players]
    rfl
  have hrunner : s.runner.release = r.runner.release := congrArg Runner.release h.alike.runner
  cases role with
  | run =>
      exact ⟨{ h.alike with
        runner := hrunner, controller := congrArg Controller.complete h.alike.controller }, hholders⟩
  | flow flow =>
      have hchannel := congrArg (fun channel => (channel.send (flow.report w.ctx ending)).2)
        h.alike.channel
      unfold Rehearsal.finish
      dsimp only
      split
      next hlistening => exact absurd hlistening (Bool.eq_false_iff.mp h.alike.quiet)
      · exact ⟨{ h.alike with runner := hrunner, channel := hchannel }, hholders⟩

/-- What is said of turns: whoever has one makes moves. -/
theorem turnRule [Idna] (role : Player.Role) (s : Scene) :
    Rehearsal.TurnRule role (fun w r => ∃ moves, OnTurn r (s.play moves) role w)
      (fun w r => ∃ moves, OnTurn r (s.play moves) role w)
      (fun r => ∃ moves, Shows r (s.play moves)) where
  advance := by
    rintro w r rest ⟨moves, h⟩ -
    refine ⟨moves ++ [.act 0 .advance], ?_⟩
    rw [play_append]
    exact h.advance _
  send := by
    rintro w r trial rest ⟨moves, h⟩ -
    obtain ⟨later, h'⟩ := h.send trial.request
    exact ⟨moves ++ later, by rwa [play_append]⟩
  answer := by
    rintro w r a ⟨moves, h⟩
    obtain ⟨later, h'⟩ := h.answer a
    exact ⟨moves ++ later, by rwa [play_append]⟩
  rest := by
    rintro w r trial rest due order a ⟨moves, h⟩ -
    refine ⟨moves, { h.alike with }, ?_⟩
    rw [h.holders, h.players]
    rfl
  finish := by
    rintro w r ending ⟨moves, h⟩ hplace
    refine ⟨moves ++ [.act 0 .conclude, .act 0 .leave], ?_⟩
    rw [play_append]
    exact h.finish hplace

/-- **A turn.** The run or flow whose turn it is makes some moves. -/
theorem turn_shows [Idna] (h : Shows r s) {p : Player} (hplayers : r.players = [p]) :
    ∃ moves, Shows (Rehearsal.turn { r with players := [] } p) (s.play moves) := by
  have hholders : s.holders = [.carriesOut p.role p.walk] := by
    rw [h.holders, hplayers]
    rfl
  exact (turnRule p.role s).turn (fun _ => ⟨[], { h.alike with }, rfl, hholders⟩)
    (fun _ _ _ _ => ⟨[], { h.alike with }, rfl, hholders⟩)

/-! ## Any number of turns -/

theorem Shows.players_cases (h : Shows r s) (hs : Guarded s) :
    r.players = [] ∨ ∃ p, r.players = [p] := by
  have hone := hs.one_holder
  rw [h.holders, List.length_map] at hone
  match hplayers : r.players with
  | [] => exact .inl rfl
  | [p] => exact .inr ⟨p, rfl⟩
  | p :: q :: rest =>
      rw [hplayers, List.length_cons, List.length_cons] at hone
      omega

theorem playTurns_shows [Idna] (hs : Guarded s) (h : Shows r s) (deadline : Option Nat)
    (done : Rehearsal → Bool) (fuel : Nat) :
    ∃ moves, Shows (playTurns deadline done fuel r) (s.play moves) := by
  induction fuel generalizing r s with
  | zero => exact ⟨[], h⟩
  | succ fuel ih =>
      unfold playTurns
      split
      · exact ⟨[], h⟩
      · have hlater : Shows { r with now := deadline.getD r.now } s := ⟨{ h.alike with }, h.holders⟩
        rcases h.players_cases hs with hplayers | ⟨p, hplayers⟩
        · have hnext : Rehearsal.next? r.players = none := by rw [hplayers]; rfl
          rw [hnext]
          exact ⟨[], hlater⟩
        · have hnext : Rehearsal.next? r.players = some (p, []) := by rw [hplayers]; rfl
          rw [hnext]
          dsimp only
          split
          · obtain ⟨moves, hshows⟩ := turn_shows h hplayers
            obtain ⟨later, hshows'⟩ := ih (hs.play moves) hshows
            exact ⟨moves ++ later, by rwa [play_append]⟩
          · exact ⟨[], hlater⟩

/-- What can be reached in a rehearsal by starting runs and flows on its runner and letting turns
pass. -/
inductive Reached [Idna] (begin : Rehearsal) : Rehearsal → Prop
  | nothing : Reached begin begin
  | run {r r' : Rehearsal} {ctx : Context} (h : Reached begin r) (hstart : r.startRun ctx = .ok r') :
      Reached begin r'
  | flow {r r' : Rehearsal} {item : ConsentItem} {ctx : Context} {acquisition : Acquisition}
      (h : Reached begin r) (hstart : r.startFlow item ctx acquisition = .ok r') : Reached begin r'
  | turns {r : Rehearsal} (h : Reached begin r) (deadline : Option Nat) (done : Rehearsal → Bool)
      (fuel : Nat) : Reached begin (playTurns deadline done fuel r)

/-- **The runner of a rehearsal.** Whatever is started on its runner, and whenever turns pass, a
rehearsal shows one of the interleavings of that runner. -/
theorem reached_shows [Idna] (hs : Guarded s) (h : Shows r s) (hreached : Reached r r') :
    ∃ moves, Shows r' (s.play moves) := by
  induction hreached with
  | nothing => exact ⟨[], h⟩
  | run _ hstart ih =>
      obtain ⟨moves, hshows⟩ := ih
      exact ⟨_, by rw [play_append]; exact startRun_shows (hs.play moves) hshows hstart⟩
  | flow _ hstart ih =>
      obtain ⟨moves, hshows⟩ := ih
      exact ⟨_, by rw [play_append]; exact startFlow_shows (hs.play moves) hshows hstart⟩
  | turns _ deadline done fuel ih =>
      obtain ⟨moves, hshows⟩ := ih
      obtain ⟨later, hshows'⟩ := playTurns_shows (hs.play moves) hshows deadline done fuel
      exact ⟨moves ++ later, by rwa [play_append]⟩

/-- A rehearsal in which nothing has been started. -/
theorem idle_shows (hnone : r.players = []) (hfree : r.runner.running = false)
    (hquiet : r.listening = false) (ctx : Context) :
    Shows r (idle r.runner.label r.definition r.schemas ctx r.controller r.channel) := by
  refine ⟨⟨rfl, rfl, ?_, rfl, rfl, hquiet⟩, by rw [hnone]; rfl⟩
  rw [idle, ← hfree]

/-- So it never has two players, and its runner is taken exactly while it has one. -/
theorem one_player [Idna] (hnone : r.players = []) (hfree : r.runner.running = false)
    (hquiet : r.listening = false) (hreached : Reached r r') :
    r'.players.length ≤ 1 ∧ (r'.runner.running = true ↔ r'.players ≠ []) := by
  have hs := idle_guarded r.runner.label r.definition r.schemas default r.controller r.channel
  obtain ⟨moves, hshows⟩ := reached_shows hs (idle_shows hnone hfree hquiet default) hreached
  have hguarded := hs.play moves
  rw [← hshows.alike.runner, hguarded.running_iff, hshows.holders, ne_eq, List.map_eq_nil_iff]
  refine ⟨?_, Iff.rfl⟩
  have hone := hguarded.one_holder
  rwa [hshows.holders, List.length_map] at hone

end Conformance.Runner.Scene
