import Conformance.Proofs.Consent.Acquisition
import Conformance.Proofs.Rehearsal

/-!
# Rehearsed acquisitions

A rehearsal plays its flows turn by turn, in an order and against answers of its own. `acquire_ends`:
what it comes to is one of the ends that any order and any answers may lead to. `acquireOn_eq`: so it
is on a machine, unless that stops the program.

A gathering goes along with the rehearsal, one move for each of its steps (`Rehearsal.Mirrors`). A
turn is bounded by the steps that its walk can still take (`Walk.steps`), so it never breaks off
before the flow rests or sends its item.
-/

namespace Conformance

namespace Rehearsal

/-! ## Who is next -/

/-- Of several players one is next, and the others stay. -/
theorem next?_perm {players : List Player} {p : Player} {others : List Player}
    (h : next? players = some (p, others)) : players.Perm (p :: others) := by
  induction players generalizing p others with
  | nil => cases h
  | cons q rest ih =>
      unfold next? at h
      cases hrest : next? rest with
      | none =>
          rw [hrest] at h
          cases h
          exact .refl _
      | some found =>
          obtain ⟨p', others'⟩ := found
          rw [hrest] at h
          dsimp only at h
          split at h
          · cases h
            exact .refl _
          · cases h
            exact ((ih hrest).cons q).trans (.swap p q others')

/-! ## What leaves the received items alone -/

@[simp] theorem received_note (r : Rehearsal) (notes : List RunNote) :
    (r.note notes).received = r.received := rfl

@[simp] theorem received_report (r : Rehearsal) (result : Option TestResult) :
    (r.report result).received = r.received := by
  cases result <;> rfl

@[simp] theorem received_send [Idna] (r : Rehearsal) (request : PreparedRequest) :
    (r.send request).2.received = r.received := rfl

@[simp] theorem received_answer (r : Rehearsal) (walk : Walk) (a : Answer) :
    (r.answer walk a).2.received = r.received := by
  unfold answer
  split
  · rw [received_report, received_note]
  · rfl

/-! ## Going along with a rehearsal -/

/-- The flow that a player carries out, with where it stands. -/
def part? (p : Player) : Option (ConsentFlow × Walk) :=
  match p.role with
  | .run => none
  | .flow f => some (f, p.walk)

/-- The flows of a rehearsal that have not sent their item. -/
def flows (r : Rehearsal) : List (ConsentFlow × Walk) := r.players.filterMap part?

/-- What holds between the turns of a rehearsed acquisition and a gathering that goes along with it;
`turn` has the flow whose turn it is, if it is the turn of one. -/
structure Mirrors (deadline : Nat) (r : Rehearsal) (turn : List (ConsentFlow × Walk))
    (g : Gathering) : Prop where
  /-- Only flows are played. -/
  players : ∀ p ∈ r.players, ∃ f, p.role = .flow f
  running : g.running.Perm (turn ++ r.flows)
  channel : g.channel = r.channel
  received : g.received = r.received.map (·.2)
  listening : r.listening = true
  /-- Nothing waits in the channel, since every item is taken off it at once. -/
  empty : r.channel.queue = []
  received_inTime : ∀ s ∈ r.received, s.1 = 0 ∨ s.1 < deadline
  now_inTime : r.now = 0 ∨ r.now < deadline

namespace Mirrors

variable {required deadline : Nat} {r : Rehearsal} {turn : List (ConsentFlow × Walk)}
  {g : Gathering} {f : ConsentFlow} {w : Walk}

theorem note (h : Mirrors deadline r turn g) (notes : List RunNote) :
    Mirrors deadline (r.note notes) turn g := { h with }

theorem report (h : Mirrors deadline r turn g) (result : Option TestResult) :
    Mirrors deadline (r.report result) turn g := by
  cases result with
  | none => exact h
  | some result => exact { h with }

theorem send [Idna] (h : Mirrors deadline r turn g) (request : PreparedRequest) :
    Mirrors deadline (r.send request).2 turn g := { h with }

/-- The flow whose turn it is takes up its next test case. -/
theorem advance [Idna] (h : Mirrors deadline r [(f, w)] g) (required : Nat) (stopped : Bool) :
    ∃ g', Gathering.Step required g g' ∧ Mirrors deadline r [(f, (w.advance stopped).2)] g' :=
  ⟨_, .advance stopped h.running, { h with running := .refl _ }⟩

/-- The flow whose turn it is gets an answer. -/
theorem answer [Idna] (h : Mirrors deadline r [(f, w)] g) (required : Nat) (a : Answer) :
    ∃ g', Gathering.Reachable required g g' ∧
      Mirrors deadline (r.answer w a).2 [(f, (r.answer w a).1)] g' := by
  unfold Rehearsal.answer
  split
  · refine ⟨_, .single (.answer r.schemas a h.running), (Mirrors.note ?_ _).report _⟩
    exact { h with running := .refl _ }
  · exact ⟨g, .refl, h⟩

/-- The flow whose turn it is rests. -/
theorem rest (h : Mirrors deadline r [(f, w)] g) (pause : Player.Pause) (delayed : Nat) :
    Mirrors deadline
      { r with players := r.players ++ [⟨.flow f, w, pause⟩], delayed := delayed } [] g := by
  refine { h with players := ?_, running := ?_ }
  · intro p hp
    rcases List.mem_append.mp hp with hp | hp
    · exact h.players p hp
    · exact ⟨f, by rw [List.mem_singleton.mp hp]⟩
  · have hflows : List.filterMap part? (r.players ++ [⟨.flow f, w, pause⟩]) =
        r.flows ++ [(f, w)] := by
      rw [List.filterMap_append]
      rfl
    rw [List.nil_append, flows, hflows]
    exact h.running.trans List.perm_append_comm

/-- What a flow leaves behind when it sends its item: whatever the channel took in is received. -/
theorem finish_eq (h : Mirrors deadline r [(f, w)] g) (ctx : Context) (ending : Walk.Ending) :
    r.finish (.flow f) ctx ending =
      { r.note (RunNote.ofSending (f.report ctx ending)
          (r.channel.send (f.report ctx ending)).1) with
        runner := r.runner.release
        channel := { (r.channel.send (f.report ctx ending)).2 with queue := [] }
        received := r.received ++
          (r.channel.send (f.report ctx ending)).2.queue.map fun i => (r.now, i) } := by
  unfold Rehearsal.finish
  dsimp only
  rw [if_pos (show (r.note _).listening = true from h.listening)]
  rfl

/-- The flow whose turn it is sends its item, which is received at once. -/
theorem finish [Idna] {ending : Walk.Ending} (h : Mirrors deadline r [(f, w)] g)
    (hend : w.place = .ended ending) (hshort : r.received.length < required) :
    ∃ g', Gathering.Reachable required g g' ∧
      Mirrors deadline (r.finish (.flow f) w.ctx ending) [] g' := by
  rw [h.finish_eq]
  have hsend : Gathering.Step required g _ := .send h.running hend
  rw [h.channel] at hsend
  rcases Channel.send_queue r.channel (f.report w.ctx ending) with hqueue | hqueue
  · -- The channel takes the item in, so it is sent and then received.
    rw [h.empty, List.nil_append] at hqueue
    have hreceive : Gathering.Step required { g with
        running := r.flows, channel := (r.channel.send (f.report w.ctx ending)).2 } _ :=
      .receive (by simpa [h.received] using hshort) hqueue
    refine ⟨_, .tail (.single hsend) hreceive, h.players, .refl _, rfl, ?_, h.listening, rfl, ?_,
      h.now_inTime⟩
    · dsimp only
      rw [hqueue, h.received, List.map_append]
      rfl
    · intro s hs
      rcases List.mem_append.mp hs with hs | hs
      · exact h.received_inTime s hs
      · obtain ⟨i, -, rfl⟩ := List.mem_map.mp hs
        exact h.now_inTime
  · -- The item is dropped, and nothing is received.
    rw [h.empty] at hqueue
    refine ⟨_, .single hsend, h.players, .refl _, ?_, ?_, h.listening, rfl, ?_, h.now_inTime⟩
    · dsimp only
      rw [← hqueue]
    · dsimp only
      rw [hqueue, h.received, List.map_nil, List.append_nil]
    · dsimp only
      rw [hqueue, List.map_nil, List.append_nil]
      exact h.received_inTime

end Mirrors

/-! ## Turns -/

section

variable {required deadline : Nat} {r : Rehearsal} {g : Gathering}

/-- A turn that has room for all steps of its walk ends where the flow rests or has sent its item. -/
theorem mirrors_proceed [Idna] {fuel : Nat} {f : ConsentFlow} {w : Walk}
    (h : Mirrors deadline r [(f, w)] g) (hshort : r.received.length < required)
    (hfuel : w.steps ≤ fuel) :
    ∃ g', Gathering.Reachable required g g' ∧
      Mirrors deadline (proceed fuel (.flow f) w r) [] g' := by
  -- Every move leaves the walk with fewer steps, so the bound is never the reason to stop.
  induction fuel generalizing r w g with
  | zero => exact absurd w.steps_pos (Nat.not_lt.mpr hfuel)
  | succ fuel ih =>
      unfold proceed
      split
      next tests hplace =>
        obtain ⟨g₁, hstep, h₁⟩ := h.advance required r.controller.stopped
        have hless := Walk.steps_advance hplace r.controller.stopped
        obtain ⟨g₂, hreach, h₂⟩ := ih ((h₁.note (r.beginningNotes (.flow f) w)).report
          (w.advance r.controller.stopped).1) (by simpa using hshort) (by omega)
        exact ⟨g₂, .head hstep hreach, h₂⟩
      next trial tests hplace =>
        have hsent := h.send trial.request
        dsimp only
        split
        · obtain ⟨g₁, hreach₁, h₁⟩ :=
            hsent.answer required (r.send trial.request).1.answer
          have hless : ((r.send trial.request).2.answer w
              (r.send trial.request).1.answer).1.steps < w.steps := by
            rw [answer, hplace]
            exact Walk.steps_receive hplace _ _
          obtain ⟨g₂, hreach₂, h₂⟩ := ih h₁ (by simpa using hshort) (by omega)
          exact ⟨g₂, hreach₁.trans hreach₂, h₂⟩
        · exact ⟨g, .refl, hsent.rest _ _⟩
      next ending hplace => exact h.finish hplace hshort

/-- The turn of a player. -/
theorem mirrors_turn [Idna] {p : Player} {others : List Player} (h : Mirrors deadline r [] g)
    (hshort : r.received.length < required) (hnext : next? r.players = some (p, others))
    (hdue : isDue (some deadline) p = true) :
    ∃ g', Gathering.Reachable required g g' ∧
      Mirrors deadline (turn { r with players := others } p) [] g' := by
  have hperm := next?_perm hnext
  obtain ⟨f, hf⟩ := h.players p (hperm.mem_iff.mpr List.mem_cons_self)
  have hflows : r.flows.Perm ((f, p.walk) :: others.filterMap part?) := by
    have hpart : part? p = some (f, p.walk) := by
      rw [part?, hf]
    rw [← List.filterMap_cons_some hpart]
    exact hperm.filterMap part?
  have hfuel := p.walk.steps_le_remaining
  have hturn : ∀ now, now = 0 ∨ now < deadline →
      Mirrors deadline { r with players := others, now := now } [(f, p.walk)] g := by
    intro now hnow
    exact ⟨fun q hq => h.players q (hperm.mem_iff.mpr (List.mem_cons_of_mem p hq)),
      h.running.trans hflows, h.channel, h.received, h.listening, h.empty, h.received_inTime, hnow⟩
  unfold turn
  rw [hf]
  split
  · exact mirrors_proceed (hturn r.now h.now_inTime) hshort hfuel
  next due order a hpause =>
    have hless : due < deadline := by
      simpa [isDue, hpause] using hdue
    obtain ⟨g₁, hreach₁, h₁⟩ := (hturn due (.inr hless)).answer required a
    obtain ⟨g₂, hreach₂, h₂⟩ := mirrors_proceed h₁ (by simpa using hshort)
      (Nat.le_trans (steps_answer_le _ p.walk a) hfuel)
    exact ⟨g₂, hreach₁.trans hreach₂, h₂⟩

/-! ## The end -/

/-- What is seen of the channel: the items that were received in time, and that it closed in time if
nobody is left to send. -/
theorem Mirrors.feed_eq (h : Mirrors deadline r [] g) :
    ∃ rest : Feed, r.feed = r.received.map (fun s => (s.1, FeedEvent.sent s.2)) ++ rest ∧
      (rest = [] ∨ r.players = [] ∧
        ∃ time, (time = 0 ∨ time < deadline) ∧ rest = [(time, .closed)]) := by
  unfold feed
  dsimp only
  split
  next hnone =>
    refine ⟨_, rfl, .inr ⟨List.isEmpty_iff.mp hnone, _, ?_, rfl⟩⟩
    cases hlast : r.received.getLast? with
    | none => exact .inl rfl
    | some s => exact h.received_inTime s (List.mem_of_getLast? hlast)
  · exact ⟨[], (List.append_nil _).symm, .inl rfl⟩

/-- Whenever the turns are over, what the receiver makes of the items is an end of the gathering. -/
theorem Mirrors.ending (h : Mirrors deadline r [] g) (hle : g.received.length ≤ required) :
    g.Ending required (waitForItems required deadline r.feed) := by
  obtain ⟨rest, hfeed, hrest⟩ := h.feed_eq
  rw [hfeed, waitForItems, receiveItems_early h.received_inTime (Nat.zero_le required),
    List.nil_append, ← h.received]
  rw [List.length_nil, Nat.zero_add, ← List.length_map (f := (·.2)), ← h.received]
  split
  next henough =>
    rw [List.take_of_length_le hle]
    exact .enough henough
  next hmissing =>
    have hshort := Nat.not_le.mp hmissing
    rcases hrest with rfl | ⟨hplayers, time, htime, rfl⟩
    · rw [receiveItems_late hshort (by simp)]
      exact .timeout hshort
    · rw [receiveItems_closed hshort htime]
      refine .closed hshort ?_ (by rw [h.channel, h.empty])
      have hgone := h.running
      rw [flows, hplayers] at hgone
      exact hgone.eq_nil

/-- The turns until enough items have been received or the time is up. -/
theorem mirrors_playTurns [Idna] {fuel : Nat} (h : Mirrors deadline r [] g)
    (hle : g.received.length ≤ required) :
    ∃ g', Gathering.Reachable required g g' ∧
      g'.Ending required (waitForItems required deadline
        (playTurns (some deadline) (hasReceived required) fuel r).feed) := by
  induction fuel generalizing r g with
  | zero => exact ⟨g, .refl, h.ending hle⟩
  | succ fuel ih =>
      unfold playTurns
      split
      · exact ⟨g, .refl, h.ending hle⟩
      next hdone =>
        have hshort : r.received.length < required := by
          simpa [hasReceived] using hdone
        split
        · exact ⟨g, .refl, h.ending hle⟩
        next p others hnext =>
          split
          next hdue =>
            obtain ⟨g₁, hreach₁, h₁⟩ := mirrors_turn h hshort hnext hdue
            obtain ⟨g₂, hreach₂, h₂⟩ := ih h₁ (hreach₁.received_le hle)
            exact ⟨g₂, hreach₁.trans hreach₂, h₂⟩
          · exact ⟨g, .refl, h.ending hle⟩

end

/-- **Rehearsed acquisitions.** What an acquisition comes to in a rehearsal that has just begun is one
of the things that it may come to. -/
theorem acquire_ends [Idna] {r : Rehearsal} (hnow : r.now = 0) (hreceived : r.received = [])
    (hchannel : r.channel = { capacity := Feed.capacity }) (specs : List SpecTokens)
    (ctx : Context) :
    ∃ flows, Acquisition.Ends r.definition ctx specs flows (r.acquire specs ctx).1.1
      (r.acquire specs ctx).1.2 := by
  unfold acquire
  split
  next flows e hdispatch => exact ⟨flows, .refused hdispatch⟩
  next flows hdispatch =>
    dsimp only
    have hstart : Mirrors r.definition.settings.consentTimeout
        { r with
          listening := true
          players := flows.map fun f => { role := .flow f, walk := f.walk } }
        [] (.start flows) := by
      refine ⟨?_, ?_, hchannel.symm, by rw [hreceived]; rfl, rfl, by rw [hchannel], ?_, .inl hnow⟩
      · intro p hp
        obtain ⟨f, -, rfl⟩ := List.mem_map.mp hp
        exact ⟨f, rfl⟩
      · have hflows : (flows.map fun f => ({ role := .flow f, walk := f.walk } : Player)).filterMap
            part? = flows.map fun f => (f, f.walk) := by
          rw [List.filterMap_map, ← List.filterMap_eq_map]
          rfl
        rw [List.nil_append, Rehearsal.flows, hflows]
        exact .refl _
      · intro s hs
        rw [hreceived] at hs
        cases hs
    obtain ⟨g, hreach, hend⟩ := mirrors_playTurns hstart (Nat.zero_le flows.length)
    exact ⟨flows, .gathered hdispatch hreach hend⟩

/-- On a machine an acquisition comes to the same, if the machine does not stop the program. It never
does so where its clock can tell the deadline and it has room for an item of each flow. -/
theorem acquireOn_eq [Idna] (m : Machine) (r : Rehearsal) (specs : List SpecTokens)
    (ctx : Context) :
    (∀ x, acquireOn m r specs ctx = .ok x → x = r.acquire specs ctx) ∧
      (m.clock.now + r.definition.settings.consentTimeout ≤ m.clock.last →
        (Acquisition.wanted specs).length ≤ m.room →
        acquireOn m r specs ctx = .ok (r.acquire specs ctx)) := by
  unfold acquireOn
  split
  next => exact ⟨fun x h => (Except.ok.inj h).symm, fun _ _ => rfl⟩
  next flows hdispatch =>
    constructor
    · intro x h
      obtain ⟨_, -, h⟩ := Except.bind_eq_ok_iff.mp h
      exact (Except.ok.inj h).symm
    · intro htold hroom
      have hlength : flows.length ≤ m.room := by
        rw [← List.length_map, Acquisition.dispatch_items hdispatch]
        exact hroom
      rw [Machine.beginWait_eq_ok htold hlength]
      rfl

end Rehearsal

end Conformance
