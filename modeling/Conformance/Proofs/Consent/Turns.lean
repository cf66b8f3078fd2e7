import Conformance.Proofs.Consent.Course
import Conformance.Proofs.Consent.Rehearsal
import Conformance.Proofs.Except

/-!
# The turns of a flow

What is proved of the course of a flow holds of the flows that a rehearsal plays. `turn_plays`: in its
turn, a flow makes some of the moves of its course. The results that the course gains are reported to
the controller, its requests are sent, and its item goes into the channel; a flow that has not come to
its end is put back to rest where its course stands. `playTurns_played`: so whenever turns have passed,
every flow stands on a course of its own, and every item that has arrived was offered in one
(`startFlow_played` and `acquire_played`: in the course of a flow that was started).
-/

namespace Conformance.Rehearsal

open ConsentFlow (Course)

/-! ## What a turn leaves behind -/

/-- What a rehearsal gains while a flow goes on from one point of its course to another: the results
and the requests that the course has gained, and before these the requests that were `unsent`; the
requests that are `unsent'` then are still to be sent. -/
structure Gains (r : Rehearsal) (c : Course) (unsent : List Trial) (r' : Rehearsal) (c' : Course)
    (unsent' : List Trial) : Prop where
  results : ∃ results, c'.course.results = c.course.results ++ results ∧
    r'.controller.results = r.controller.results ++ results
  requests : ∃ sent, c'.course.sent = c.course.sent ++ sent ∧
    r'.requests ++ unsent'.map (·.request) = r.requests ++ (unsent ++ sent).map (·.request)

/-- What only the end of a turn changes is as it was. -/
structure Still (r r' : Rehearsal) : Prop where
  players : r'.players = r.players
  channel : r'.channel = r.channel
  received : r'.received = r.received

/-- The items that were received or wait in the channel. -/
def arrived (r : Rehearsal) : List ConsentItem := r.received.map (·.2) ++ r.channel.queue

/-- A player carries out a flow, whose course stands where the player rests. -/
structure Carries (p : Player) (c : Course) : Prop where
  role : p.role = .flow c.flow
  walk : p.walk = c.course.walk
  there : c.gone = false
  /-- One that has had no turn yet has no request that is still to be sent. -/
  fresh : p.pause = .fresh → c.course.walk.trial? = none
  /-- Any other waits for the answer to its request. -/
  waits : p.pause ≠ .fresh → ∃ trial rest, c.course.walk.place = .at trial rest

/-- How a turn ends for the flow. -/
inductive Left (r : Rehearsal) (c : Course) (r' : Rehearsal) (c' : Course) : Prop
  /-- It rests where its course stands, and has offered nothing. -/
  | resting (p : Player) (hcarries : Carries p c') (hoffered : c'.offered = c.offered)
      (hplayers : r'.players = r.players ++ [p]) (hchannel : r'.channel = r.channel)
      (hreceived : r'.received = r.received)
  /-- It is gone, and the item that it has offered was sent. -/
  | gone (item : ConsentItem) (hgone : c'.gone = true) (hoffered : c'.offered = c.offered ++ [item])
      (hplayers : r'.players = r.players)
      (harrived : r'.arrived = r.received.map (·.2) ++ (r.channel.send item).2.queue)

/-- What comes of a turn in which a flow has made moves of its course. -/
def Plays [Idna] (r : Rehearsal) (c : Course) (unsent : List Trial) (r' : Rehearsal) : Prop :=
  ∃ moves, Gains r c unsent r' (c.play moves) [] ∧ Left r c r' (c.play moves)

variable {r r₁ r' : Rehearsal} {c c₁ c' : Course} {unsent unsent₁ unsent' : List Trial}

theorem Gains.trans (h : Gains r c unsent r₁ c₁ unsent₁) (h₁ : Gains r₁ c₁ unsent₁ r' c' unsent') :
    Gains r c unsent r' c' unsent' := by
  obtain ⟨results, hcourse, hreported⟩ := h.results
  obtain ⟨results', hcourse', hreported'⟩ := h₁.results
  obtain ⟨sent, hsent, hrequests⟩ := h.requests
  obtain ⟨sent', hsent', hrequests'⟩ := h₁.requests
  refine ⟨⟨results ++ results', ?_, ?_⟩, ⟨sent ++ sent', ?_, ?_⟩⟩
  · rw [hcourse', hcourse, List.append_assoc]
  · rw [hreported', hreported, List.append_assoc]
  · rw [hsent', hsent, List.append_assoc]
  · rw [hrequests', List.map_append, ← List.append_assoc, hrequests, List.append_assoc,
      ← List.map_append, List.append_assoc]

theorem still_note (r : Rehearsal) (notes : List RunNote) : Still r (r.note notes) := ⟨rfl, rfl, rfl⟩

theorem still_send [Idna] (r : Rehearsal) (request : PreparedRequest) :
    Still r (r.send request).2 :=
  ⟨rfl, rfl, rfl⟩

theorem Still.trans (h : Still r r₁) (h₁ : Still r₁ r') : Still r r' where
  players := h₁.players.trans h.players
  channel := h₁.channel.trans h.channel
  received := h₁.received.trans h.received

theorem Still.arrived (h : Still r r') : r'.arrived = r.arrived := by
  rw [Rehearsal.arrived, Rehearsal.arrived, h.received, h.channel]

theorem Still.report (h : Still r r') (result : Option TestResult) : Still r (r'.report result) := by
  cases result <;> exact ⟨h.players, h.channel, h.received⟩

theorem still_answer (r : Rehearsal) (w : Walk) (a : Answer) : Still r (r.answer w a).2 := by
  unfold answer
  split
  · exact (still_note r _).report _
  · exact ⟨rfl, rfl, rfl⟩

theorem Left.of_still (hstill : Still r r₁) (hoffered : c₁.offered = c.offered)
    (h : Left r₁ c₁ r' c') : Left r c r' c' := by
  cases h with
  | resting p hcarries hoffered' hplayers hchannel hreceived =>
      rw [hstill.players] at hplayers
      exact .resting p hcarries (hoffered'.trans hoffered) hplayers
        (hchannel.trans hstill.channel) (hreceived.trans hstill.received)
  | gone item hgone hoffered' hplayers harrived =>
      rw [hstill.received, hstill.channel] at harrived
      rw [hoffered] at hoffered'
      exact .gone item hgone hoffered' (hplayers.trans hstill.players) harrived

/-- A turn that begins with a move. -/
theorem Plays.head [Idna] {m : Walk.Move} (h : Plays r₁ c₁ unsent₁ r') (hstep : c.step m = c₁)
    (hoffered : c₁.offered = c.offered) (hstill : Still r r₁)
    (hgains : Gains r c unsent r₁ c₁ unsent₁) : Plays r c unsent r' := by
  obtain ⟨moves, hlater, hleft⟩ := h
  subst hstep
  exact ⟨m :: moves, hgains.trans hlater, hleft.of_still hstill hoffered⟩

/-- A turn in which something is sent before the first move. -/
theorem Plays.sent [Idna] (h : Plays r₁ c unsent₁ r') (hstill : Still r r₁)
    (hgains : Gains r c unsent r₁ c unsent₁) : Plays r c unsent r' := by
  obtain ⟨moves, hlater, hleft⟩ := h
  exact ⟨moves, hgains.trans hlater, hleft.of_still hstill rfl⟩

/-! ## One move -/

theorem results_report (r : Rehearsal) (result : Option TestResult) :
    (r.report result).controller.results = r.controller.results ++ result.toList := by
  cases result with
  | none => exact (List.append_nil _).symm
  | some result => rfl

theorem requests_report (r : Rehearsal) (result : Option TestResult) :
    (r.report result).requests = r.requests := by
  cases result <;> rfl

theorem results_send [Idna] (r : Rehearsal) (request : PreparedRequest) :
    (r.send request).2.controller.results = r.controller.results := by
  unfold send
  dsimp only
  split <;> rfl

/-- The flow takes up its next step: if its request is prepared, it is still to be sent. -/
theorem gains_advance [Idna] {rest : List TestCase} (hplace : c.course.walk.place = .before rest)
    (hcourse : c'.course = c.course.step (.advance r.controller.stopped)) (notes : List RunNote) :
    Gains r c [] ((r.note notes).report (c.course.walk.advance r.controller.stopped).1) c'
      (c.course.walk.advance r.controller.stopped).2.trial?.toList := by
  rw [Walk.Course.step, hplace] at hcourse
  refine ⟨⟨_, by rw [hcourse], results_report _ _⟩, ⟨_, by rw [hcourse], ?_⟩⟩
  rw [requests_report]
  rfl

/-- The request of the flow is sent. -/
theorem gains_send [Idna] (r : Rehearsal) (c : Course) (trial : Trial) :
    Gains r c [trial] (r.send trial.request).2 c [] where
  results := ⟨[], by rw [List.append_nil], by rw [List.append_nil, results_send]⟩
  requests := ⟨[], by rw [List.append_nil], by rw [List.map_nil, List.append_nil]; rfl⟩

/-- The flow gets the answer to its request. -/
theorem gains_answer [Idna] {trial : Trial} {rest : List TestCase}
    (hplace : c.course.walk.place = .at trial rest) {a : Answer}
    (hcourse : c'.course = c.course.step (.receive r.schemas a)) :
    Gains r c [] (r.answer c.course.walk a).2 c' [] := by
  rw [Walk.Course.step, hplace] at hcourse
  rw [answer, hplace]
  refine ⟨⟨_, by rw [hcourse], results_report _ _⟩, ⟨[], ?_, ?_⟩⟩
  · rw [hcourse, List.append_nil]
  · exact congrArg (· ++ _) (requests_report _ _)

/-- Where the flow stands then: it has no request that is to be sent. -/
theorem walk_answer [Idna] {trial : Trial} {rest : List TestCase}
    (hplace : c.course.walk.place = .at trial rest) (r : Rehearsal) (a : Answer) :
    (c.course.step (.receive r.schemas a)).walk = (r.answer c.course.walk a).1 ∧
      (r.answer c.course.walk a).1.trial? = none ∧
      (r.answer c.course.walk a).1.steps < c.course.walk.steps := by
  have hanswer : (r.answer c.course.walk a).1 = (c.course.walk.receive r.schemas a).2 := by
    rw [answer, hplace]
  rw [hanswer]
  refine ⟨?_, ?_, Walk.steps_receive hplace r.schemas a⟩
  · rw [Walk.Course.step, hplace]
  · rw [Walk.receive_at hplace, Walk.trial?_leave]

/-- A turn that begins with an answer. -/
theorem Plays.answered [Idna] {trial : Trial} {rest : List TestCase} {a : Answer}
    (h : Plays (r.answer c.course.walk a).2
      { c with course := c.course.step (.receive r.schemas a) } [] r')
    (hthere : c.gone = false) (hplace : c.course.walk.place = .at trial rest) : Plays r c [] r' :=
  h.head (Course.step_at hthere hplace _) rfl
    (still_answer r c.course.walk a) (gains_answer hplace rfl)

/-- The flow is brought to its end. -/
theorem gains_finish (hcourse : c'.course = c.course) (ending : Walk.Ending) :
    Gains r c [] (r.finish (.flow c.flow) c.course.walk.ctx ending) c' [] := by
  have hfinish : (r.finish (.flow c.flow) c.course.walk.ctx ending).controller = r.controller ∧
      (r.finish (.flow c.flow) c.course.walk.ctx ending).requests = r.requests := by
    unfold finish
    dsimp only
    split <;> exact ⟨rfl, rfl⟩
  exact ⟨⟨[], by rw [hcourse, List.append_nil], by rw [hfinish.1, List.append_nil]⟩,
    ⟨[], by rw [hcourse, List.append_nil], by rw [hfinish.2]; rfl⟩⟩

/-- Its item is sent. -/
theorem finish_left {ending : Walk.Ending} (hgone : c'.gone = true)
    (hoffered : c'.offered = c.offered ++ [c.flow.report c.course.walk.ctx ending]) :
    Left r c (r.finish (.flow c.flow) c.course.walk.ctx ending) c' := by
  refine .gone _ hgone hoffered ?_ ?_ <;> unfold finish <;> dsimp only <;> split
  · rfl
  · rfl
  · -- The listener takes everything off the channel.
    simp [arrived, listen, Channel.receiveAll, note, Function.comp_def]
  · rfl

/-! ## Turns -/

theorem carries_resting {trial : Trial} {rest : List TestCase} (hthere : c.gone = false)
    (hplace : c.course.walk.place = .at trial rest) (due order : Nat) (a : Answer) :
    Carries ⟨.flow c.flow, c.course.walk, .until due order a⟩ c where
  role := rfl
  walk := rfl
  there := hthere
  fresh := nofun
  waits := fun _ => ⟨trial, rest, hplace⟩

/-- A flow that goes on makes moves of its course, until it rests or is gone. -/
theorem proceed_plays [Idna] {fuel : Nat} (hthere : c.gone = false)
    (hfuel : c.course.walk.steps ≤ fuel) :
    Plays r c c.course.walk.trial?.toList (proceed fuel (.flow c.flow) c.course.walk r) := by
  -- As for the gatherings, every move leaves fewer steps, so the bound is never what ends the turn.
  induction fuel generalizing r c with
  | zero => exact absurd c.course.walk.steps_pos (Nat.not_lt.mpr hfuel)
  | succ fuel ih =>
      unfold proceed
      split
      next rest hplace =>
        have hpending : c.course.walk.trial?.toList = [] := by simp [Walk.trial?, hplace]
        have hstep := Course.step_before hthere hplace (.advance r.controller.stopped)
        have hless := Walk.steps_advance hplace r.controller.stopped
        have hwalk : (c.course.step (.advance r.controller.stopped)).walk =
            (c.course.walk.advance r.controller.stopped).2 := by
          rw [Walk.Course.step, hplace]
        have hlater := @ih ((r.note (r.beginningNotes (.flow c.flow) c.course.walk)).report
            (c.course.walk.advance r.controller.stopped).1)
          { c with course := c.course.step (.advance r.controller.stopped) } hthere
          (by dsimp only; rw [hwalk]; omega)
        rw [hwalk] at hlater
        rw [hpending]
        exact hlater.head hstep rfl ((still_note r _).report _) (gains_advance hplace rfl _)
      next trial rest hplace =>
        have hpending : c.course.walk.trial?.toList = [trial] := by simp [Walk.trial?, hplace]
        have hsent := gains_send r c trial
        rw [hpending]
        dsimp only
        split
        · obtain ⟨hwalk, hnone, hless⟩ := walk_answer hplace (r.send trial.request).2
            (r.send trial.request).1.answer
          have hlater := @ih ((r.send trial.request).2.answer c.course.walk
              (r.send trial.request).1.answer).2
            { c with course := c.course.step (.receive (r.send trial.request).2.schemas
                (r.send trial.request).1.answer) } hthere (by dsimp only; rw [hwalk]; omega)
          rw [hwalk, hnone] at hlater
          exact (hlater.answered hthere hplace).sent (still_send r trial.request) hsent
        · exact ⟨[], ⟨hsent.results, hsent.requests⟩,
            .resting _ (carries_resting hthere hplace _ _ _) rfl rfl rfl rfl⟩
      next ending hplace =>
        have hpending : c.course.walk.trial?.toList = [] := by simp [Walk.trial?, hplace]
        have hlast : c.play [.advance false] = { c with
            gone := true, offered := c.offered ++ [c.flow.report c.course.walk.ctx ending] } :=
          Course.step_last hthere hplace false
        rw [hpending]
        exact ⟨[.advance false], gains_finish (by rw [hlast]) ending,
          finish_left (by rw [hlast]) (by rw [hlast])⟩

/-- **The turn of a flow.** A flow whose turn it is makes moves of its course: the results and requests
of these moves are reported and sent, and the flow rests again where its course stands, or it is gone
and has sent the item that its course offers. -/
theorem turn_plays [Idna] {p : Player} (h : Carries p c) : Plays r c [] (r.turn p) := by
  have hfuel := p.walk.steps_le_remaining
  unfold turn
  rw [h.role]
  rw [h.walk] at hfuel ⊢
  split
  next hfresh =>
    have hgoes := @proceed_plays r c _ _ h.there hfuel
    rw [h.fresh hfresh] at hgoes
    exact hgoes
  next due order a hpause =>
    obtain ⟨trial, rest, hplace⟩ := h.waits (by rw [hpause]; nofun)
    have hlater : Gains r c [] { r with now := due } c [] := ⟨⟨[], by simp⟩, ⟨[], by simp⟩⟩
    obtain ⟨hwalk, hnone, hless⟩ := walk_answer hplace { r with now := due } a
    have hgoes := @proceed_plays ({ r with now := due }.answer c.course.walk a).2
      { c with course := c.course.step (.receive r.schemas a) }
      _ (2 * c.course.walk.remaining + 2) h.there (by dsimp only; rw [hwalk]; omega)
    rw [hwalk, hnone] at hgoes
    exact (hgoes.answered h.there hplace).sent ⟨rfl, rfl, rfl⟩ hlater

/-- No flow has moved, and no item was sent. -/
structure Aside (r r' : Rehearsal) : Prop where
  arrived : r'.arrived = r.arrived
  players : ∀ p ∈ r'.players, p ∈ r.players ∨ p.role = .run

theorem Aside.of_still (hstill : Still r r₁) (h : Aside r₁ r') : Aside r r' where
  arrived := h.arrived.trans hstill.arrived
  players := by
    rw [← hstill.players]
    exact h.players

theorem proceed_run [Idna] (fuel : Nat) (w : Walk) (r : Rehearsal) :
    Aside r (proceed fuel .run w r) := by
  induction fuel generalizing w r with
  | zero => exact ⟨rfl, fun p hp => .inl hp⟩
  | succ fuel ih =>
      unfold proceed
      split
      · exact .of_still ((still_note r _).report _) (ih _ _)
      · dsimp only
        split
        · exact .of_still ((still_send r _).trans (still_answer _ w _)) (ih _ _)
        · refine ⟨rfl, fun p hp => ?_⟩
          rcases List.mem_append.mp hp with hp | hp
          · exact .inl hp
          · exact .inr (by rw [List.mem_singleton.mp hp])
      · exact ⟨rfl, fun p hp => .inl hp⟩

/-- The turn of a run moves no flow, and sends no item. -/
theorem turn_run [Idna] {p : Player} (hrole : p.role = .run) (r : Rehearsal) :
    Aside r (r.turn p) := by
  unfold turn
  rw [hrole]
  split
  · exact proceed_run _ _ _
  next due order a hpause =>
    have hstill : Still r { r with now := due } := ⟨rfl, rfl, rfl⟩
    exact .of_still (hstill.trans (still_answer _ p.walk a)) (proceed_run _ _ _)

/-! ## Any number of turns -/

/-- What holds between the turns of a rehearsal in which flows have been started: whoever is left
stands on the course of one of them, and what has arrived was offered in such a course. -/
structure Played [Idna] (flows : List ConsentFlow) (r : Rehearsal) : Prop where
  players : ∀ p ∈ r.players, p.role = .run ∨
    ∃ f ∈ flows, ∃ moves, Carries p ((Course.start f).play moves)
  arrived : ∀ i ∈ r.arrived, ∃ f ∈ flows, ∃ moves, i ∈ ((Course.start f).play moves).offered

variable {flows : List ConsentFlow}

/-- What has arrived after an item was sent. -/
theorem mem_arrived_or_eq {item i : ConsentItem}
    (h : i ∈ r.received.map (·.2) ++ (r.channel.send item).2.queue) : i ∈ r.arrived ∨ i = item := by
  rcases Channel.send_queue r.channel item with hqueue | hqueue
  · rw [hqueue, ← List.append_assoc, List.mem_append, List.mem_singleton] at h
    exact h
  · rw [hqueue] at h
    exact .inl h

theorem Played.turn [Idna] (h : Played flows r) {p : Player} {others : List Player}
    (hnext : next? r.players = some (p, others)) :
    Played flows ({ r with players := others }.turn p) := by
  have hperm := next?_perm hnext
  have hothers : ∀ q ∈ others, q.role = .run ∨
      ∃ f ∈ flows, ∃ moves, Carries q ((Course.start f).play moves) := fun q hq =>
    h.players q (hperm.mem_iff.mpr (List.mem_cons_of_mem p hq))
  rcases h.players p (hperm.mem_iff.mpr List.mem_cons_self) with hrole | ⟨f, hf, moves, hcarries⟩
  · have haside := turn_run hrole { r with players := others }
    refine ⟨fun q hq => (haside.players q hq).elim (hothers q) .inl, fun i hi => h.arrived i ?_⟩
    rwa [haside.arrived] at hi
  · obtain ⟨later, -, hleft⟩ := @turn_plays { r with players := others } _ _ _ hcarries
    have hplay : ((Course.start f).play moves).play later = (Course.start f).play (moves ++ later) := by
      simp only [Course.play, List.foldl_append]
    rw [hplay] at hleft
    cases hleft with
    | resting q hcarries' _ hplayers hchannel hreceived =>
        refine ⟨fun q' hq' => ?_, fun i hi => h.arrived i ?_⟩
        · rw [hplayers] at hq'
          rcases List.mem_append.mp hq' with hq' | hq'
          · exact hothers q' hq'
          · rw [List.mem_singleton.mp hq']
            exact .inr ⟨f, hf, _, hcarries'⟩
        · rwa [Rehearsal.arrived, hchannel, hreceived] at hi
    | gone item _ hoffered hplayers harrived =>
        refine ⟨fun q hq => hothers q (by rwa [hplayers] at hq), fun i hi => ?_⟩
        rw [harrived] at hi
        rcases mem_arrived_or_eq hi with hi | rfl
        · exact h.arrived i hi
        · exact ⟨f, hf, _, by rw [hoffered]; exact List.mem_append_right _ (List.mem_singleton_self _)⟩

/-- **Any number of turns.** Whenever turns have passed in a rehearsal, each flow that is left stands on
a course of its own, and each item that has arrived was offered in the course of a flow. -/
theorem playTurns_played [Idna] (h : Played flows r) (deadline : Option Nat)
    (done : Rehearsal → Bool) (fuel : Nat) : Played flows (playTurns deadline done fuel r) := by
  induction fuel generalizing r with
  | zero => exact h
  | succ fuel ih =>
      unfold playTurns
      split
      · exact h
      · split
        · exact { h with }
        next p others hnext =>
          split
          · exact ih (h.turn hnext)
          · exact { h with }

/-- A player who has just been started carries out its flow from the beginning. -/
theorem carries_start (f : ConsentFlow) : Carries { role := .flow f, walk := f.walk } (.start f) where
  role := rfl
  walk := rfl
  there := rfl
  fresh := fun _ => rfl
  waits := fun h => absurd rfl h

/-- A flow that is started is one of those that are played. -/
theorem startFlow_played [Idna] (h : Played flows r) {item : ConsentItem} {ctx : Context}
    {acquisition : Acquisition} (hstart : r.startFlow item ctx acquisition = .ok r') :
    ∃ f runner, ConsentFlow.begin r.runner r.definition item ctx acquisition = .ok (f, runner) ∧
      Played (f :: flows) r' := by
  unfold startFlow at hstart
  obtain ⟨⟨f, runner⟩, hbegin, hstarted⟩ := Except.bind_eq_ok_iff.mp hstart
  cases hstarted
  refine ⟨f, runner, hbegin, fun p hp => ?_, fun i hi => ?_⟩
  · rcases List.mem_append.mp hp with hp | hp
    · refine (h.players p hp).imp_right ?_
      rintro ⟨g, hg, hcourse⟩
      exact ⟨g, List.mem_cons_of_mem f hg, hcourse⟩
    · rw [List.mem_singleton.mp hp]
      exact .inr ⟨f, List.mem_cons_self, [], carries_start f⟩
  · obtain ⟨g, hg, hoffered⟩ := h.arrived i hi
    exact ⟨g, List.mem_cons_of_mem f hg, hoffered⟩

/-- In an acquisition, whatever arrives is offered in the course of a flow that was set up for it. -/
theorem acquire_played [Idna] {specs : List SpecTokens} {ctx : Context}
    (hdispatch : Acquisition.dispatch r.definition ctx (Acquisition.wanted specs) = (flows, none))
    (harrived : r.arrived = []) : Played flows (r.acquire specs ctx).2 := by
  unfold acquire
  rw [hdispatch]
  refine playTurns_played ⟨fun p hp => ?_, fun i hi => ?_⟩ _ _ _
  · obtain ⟨f, hf, rfl⟩ := List.mem_map.mp hp
    exact .inr ⟨f, hf, [], carries_start f⟩
  · have hnone : i ∈ r.arrived := hi
    rw [harrived] at hnone
    cases hnone

end Conformance.Rehearsal
