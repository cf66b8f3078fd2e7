import Conformance.Proofs.Consent.Acquisition
import Conformance.Proofs.Walk

/-!
# Room in the channel

Consent flows send into a channel of fixed capacity and never wait for room, so whether an item can be
lost depends on how many flows there are. `Reachable.none_dropped`: as long as there are no more flows
than the channel has room for, no item is dropped in any interleaving, and the receiver gets all of them
when the flows end in time. `burst_closed`: with more flows than that, all of them may send before
anything is received; then items are dropped, and the receiver finds the channel closed.
-/

namespace Conformance

/-- A channel that is received from takes in what is sent while it has room. -/
theorem Channel.send_of_room {α : Type} {c : Channel α} (hreceiver : c.hasReceiver = true)
    (hroom : c.queue.length < c.capacity) (a : α) :
    c.send a = (.accepted, { c with queue := c.queue ++ [a] }) := by
  unfold send
  rw [if_neg (by simp [hreceiver]), if_pos hroom]

theorem Channel.send_of_full {α : Type} {c : Channel α} (hreceiver : c.hasReceiver = true)
    (hfull : c.capacity ≤ c.queue.length) (a : α) : c.send a = (.full, c) := by
  unfold send
  rw [if_neg (by simp [hreceiver]), if_neg (Nat.not_lt.mpr hfull)]

namespace Gathering

/-! ## No more flows than room -/

/-- A gathering that has lost no item of its flows. -/
structure Complete (flows : List ConsentFlow) (g : Gathering) : Prop where
  keys : g.keys.Perm (flows.map fun f => f.item.key)
  capacity : g.channel.capacity = Feed.capacity
  hasReceiver : g.channel.hasReceiver = true

theorem start_complete (flows : List ConsentFlow) : Complete flows (start flows) where
  keys := by rw [keys_start]
  capacity := rfl
  hasReceiver := rfl

variable {flows : List ConsentFlow} {required : Nat} {g g' : Gathering}

namespace Complete

/-- Each flow is still running, or its item waits in the channel, or has been received. -/
theorem length_eq (h : Complete flows g) :
    g.received.length + g.channel.queue.length + g.running.length = flows.length := by
  have hlength := h.keys.length_eq
  simpa [Gathering.keys, Nat.add_assoc] using hlength

/-- While a flow is running, there is room for its item. -/
theorem send_eq (h : Complete flows g) (hroom : flows.length ≤ Feed.capacity)
    (hrun : g.running ≠ []) (item : ConsentItem) :
    g.channel.send item = (.accepted, { g.channel with queue := g.channel.queue ++ [item] }) := by
  have hlength := h.length_eq
  have hpos := List.length_pos_iff.mpr hrun
  refine Channel.send_of_room h.hasReceiver ?_ item
  rw [h.capacity]
  omega

theorem step [Idna] (h : Complete flows g) (hroom : flows.length ≤ Feed.capacity)
    (hstep : Step required g g') : Complete flows g' := by
  cases hstep with
  | advance stopped hrun => exact ⟨(keys_perm_of_running hrun).trans h.keys, h.2, h.3⟩
  | answer schemas a hrun => exact ⟨(keys_perm_of_running hrun).trans h.keys, h.2, h.3⟩
  | @send f w rest ending hrun hend =>
      have hne : g.running ≠ [] := by
        intro hnil
        rw [hnil] at hrun
        cases hrun.nil_eq
      rw [h.send_eq hroom hne]
      refine ⟨List.Perm.trans ?_ ((keys_perm_of_running hrun).trans h.keys), h.2, h.3⟩
      -- The item of the flow moves from the flows to the end of the queue.
      unfold Gathering.keys
      dsimp only
      rw [← List.append_assoc, List.map_append, List.map_singleton, f.report_key,
        List.append_assoc, List.singleton_append]
  | receive hshort hqueue =>
      refine ⟨?_, h.2, h.3⟩
      have hkeys := h.keys
      unfold Gathering.keys at hkeys ⊢
      rwa [hqueue, List.append_cons] at hkeys

end Complete

theorem Reachable.complete [Idna] (h : Reachable required (start flows) g)
    (hroom : flows.length ≤ Feed.capacity) : Complete flows g := by
  induction h with
  | refl => exact start_complete flows
  | tail _ hstep ih => exact ih.step hroom hstep

/-- **Nothing is dropped.** As long as there are no more flows than the channel has room for, and
whatever they and the receiver have done so far: a flow that has come to its end finds room for its item;
the receiver never finds the channel closed; and when all flows have sent their items in time, it gets
one item of each, whatever happens to the channel after that. -/
theorem Reachable.none_dropped [Idna] (hroom : flows.length ≤ Feed.capacity)
    (h : Reachable flows.length (start flows) g) :
    (∀ (f : ConsentFlow) (w : Walk) (ending : Walk.Ending), (f, w) ∈ g.running →
      w.place = .ended ending → (g.channel.send (f.report w.ctx ending)).1 = .accepted) ∧
    (∀ received required items,
      ¬ g.Ending flows.length (.error (.closed received required items))) ∧
    (g.running = [] → ∀ (deadline : Nat) (sends : List (Nat × ConsentItem)) (rest : Feed),
      sends.map (·.2) = g.channel.queue → (∀ s ∈ sends, s.1 = 0 ∨ s.1 < deadline) →
      ∃ items, (items.map ConsentItem.key).Perm (flows.map fun f => f.item.key) ∧
        (receiveItems flows.length deadline g.received
          (sends.map (fun s => (s.1, FeedEvent.sent s.2)) ++ rest)).1 = settleItems items) := by
  have hcomplete := h.complete hroom
  have hlength := hcomplete.length_eq
  refine ⟨?_, ?_, ?_⟩
  · intro f w ending hmem _
    rw [hcomplete.send_eq hroom (List.ne_nil_of_mem hmem)]
  · intro received required items hending
    generalize hout : Except.error (ConsentError.closed received required items) = outcome
      at hending
    cases hending with
    | enough henough =>
        unfold settleItems at hout
        dsimp only at hout
        split at hout <;> cases hout
    | closed hshort hgone hempty =>
        rw [hgone, hempty, List.length_nil, List.length_nil] at hlength
        omega
    | timeout => cases hout
  · intro hgone deadline sends rest hsends hearly
    have hqueue : sends.length = g.channel.queue.length := by
      rw [← hsends, List.length_map]
    rw [hgone, List.length_nil] at hlength
    refine ⟨g.received ++ g.channel.queue, ?_, ?_⟩
    · have hkeys := hcomplete.keys
      rwa [keys, hgone, List.map_nil, List.append_nil] at hkeys
    · rw [receiveItems_early hearly (by omega), if_pos (by omega), hsends,
        List.take_of_length_le (by rw [List.length_append]; omega)]

/-- Two flows that have nothing to do. -/
def idleFlows : List ConsentFlow :=
  [⟨{ name := "idle" }, .new "accountToken0001" "", .empty⟩,
    ⟨{ name := "idle" }, .new "accountToken0002" "", .empty⟩]

/-- The gathering in which both of them have sent their item. -/
def idleSent : Gathering :=
  ⟨[], { capacity := Feed.capacity, queue := idleFlows.map (·.item) }, []⟩

theorem idleFlows_received :
    idleFlows.length ≤ Feed.capacity ∧ Reachable idleFlows.length (start idleFlows) idleSent ∧
      ∃ items, (items.map ConsentItem.key).Perm [("accountToken0001", ""), ("accountToken0002", "")] ∧
        (receiveItems 2 5 [] ([(1, .sent (.new "accountToken0001" "")),
          (4, .sent (.new "accountToken0002" "")), (4, .closed)])).1 = settleItems items := by
  have hroom : idleFlows.length ≤ Feed.capacity := by decide
  obtain ⟨g, hreach, rfl⟩ : ∃ g, Reachable idleFlows.length (start idleFlows) g ∧ g = idleSent :=
    ⟨_, .head (.advance false (.refl _)) (.head (.send (.refl _) rfl)
      (.head (.advance false (.refl _)) (.single (.send (.refl _) rfl)))), rfl⟩
  refine ⟨hroom, hreach, ?_⟩
  exact (Reachable.none_dropped hroom hreach).2.2 rfl 5
    [(1, .new "accountToken0001" ""), (4, .new "accountToken0002" "")] [(4, .closed)] rfl (by decide)

/-! ## More flows than room -/

/-- A flow that has not begun ends at once when it is asked to stop. -/
theorem ended_of_stopped [Idna] (f : ConsentFlow) :
    ∃ ending, (f.walk.advance true).2.place = .ended ending := by
  cases htests : f.component.tests with
  | nil =>
      have hplace : f.walk.place = .before [] := congrArg Walk.Place.before htests
      exact ⟨.completed, by rw [Walk.advance_nil hplace]⟩
  | cons test rest =>
      have hplace : f.walk.place = .before (test :: rest) := congrArg Walk.Place.before htests
      exact ⟨.stopped, by rw [Walk.advance_stopped hplace]⟩

/-- All flows may send their items before anything is received; the channel then holds as many of them
as it has room for. -/
theorem reachable_burst [Idna] {channel : Channel ConsentItem}
    (hreceiver : channel.hasReceiver = true)
    (hfits : channel.queue.length ≤ channel.capacity) (received : List ConsentItem) :
    ∃ channel' : Channel ConsentItem,
      channel'.queue.length = min channel.capacity (channel.queue.length + flows.length) ∧
      Reachable required ⟨flows.map fun f => (f, f.walk), channel, received⟩
        ⟨[], channel', received⟩ := by
  induction flows generalizing channel with
  | nil => exact ⟨channel, by rw [List.length_nil]; omega, .refl⟩
  | cons f rest ih =>
      obtain ⟨ending, hended⟩ := ended_of_stopped f
      have hsent : ∃ next : Channel ConsentItem,
          (channel.send (f.report (f.walk.advance true).2.ctx ending)).2 = next ∧
          next.hasReceiver = true ∧ next.capacity = channel.capacity ∧
          next.queue.length = min channel.capacity (channel.queue.length + 1) := by
        rcases Nat.lt_or_ge channel.queue.length channel.capacity with hroom | hfull
        · refine ⟨_, rfl, ?_⟩
          rw [Channel.send_of_room hreceiver hroom]
          refine ⟨hreceiver, rfl, ?_⟩
          rw [List.length_append, List.length_singleton]
          omega
        · refine ⟨channel, ?_, hreceiver, rfl, by omega⟩
          rw [Channel.send_of_full hreceiver hfull]
      obtain ⟨next, hnext, hreceiver', hcapacity, hqueue⟩ := hsent
      obtain ⟨channel', hlength, hreach⟩ := ih hreceiver' (by omega)
      refine ⟨channel', by rw [hlength, List.length_cons]; omega, ?_⟩
      refine .head (.advance true (.refl _)) (.head (.send (.refl _) hended) ?_)
      dsimp only
      rw [hnext]
      exact hreach

/-- The receiver may take everything off the channel while it is short of items. -/
theorem reachable_drain [Idna] {channel : Channel ConsentItem} {received : List ConsentItem}
    (hshort : received.length + channel.queue.length ≤ required)
    (running : List (ConsentFlow × Walk)) :
    Reachable required ⟨running, channel, received⟩
      ⟨running, { channel with queue := [] }, received ++ channel.queue⟩ := by
  obtain ⟨capacity, queue, hasReceiver⟩ := channel
  induction queue generalizing received with
  | nil =>
      rw [List.append_nil]
      exact .refl
  | cons item rest ih =>
      rw [List.length_cons] at hshort
      refine .head (.receive (by dsimp only; omega) rfl) ?_
      have hrest := @ih (received ++ [item]) (by simpa [Nat.add_assoc, Nat.add_comm 1] using hshort)
      rwa [← List.append_cons] at hrest

/-- With more flows than the channel has room for, all of them may come to their end and yet the
receiver finds the channel closed before it has enough items. -/
theorem burst_closed [Idna] (h : Feed.capacity < flows.length) :
    ∃ g, Reachable flows.length (start flows) g ∧
      g.Ending flows.length (.error (.closed Feed.capacity flows.length g.received)) := by
  obtain ⟨channel, hqueue, hreach⟩ := @reachable_burst flows flows.length _
    { capacity := Feed.capacity } rfl (Nat.zero_le _) []
  have hfull : channel.queue.length = Feed.capacity := by
    rw [hqueue, List.length_nil, Nat.zero_add]
    exact Nat.min_eq_left (Nat.le_of_lt h)
  refine ⟨_, hreach.trans (reachable_drain (by rw [List.length_nil]; omega) []), ?_⟩
  rw [List.nil_append, ← hfull]
  exact .closed (by rw [hfull]; exact h) rfl rfl

end Gathering

namespace Acquisition

/-- One specification with more groups than the channel has room for. -/
def crowdedSpecs : List SpecTokens :=
  [{ identifier := "accounts", specType := .accounts, tokens := (List.range 101).map fun n =>
      { name := TokenStore.tokenName "account" (n + 1), ids := [], required := ["ReadBalances"] } }]

theorem crowdedSpecs_closed :
    ∃ flows items, Ends {} sampleContext crowdedSpecs flows (.error (.closed 100 101 items))
      sampleContext := by
  obtain ⟨flows, hdispatch⟩ :
      ∃ flows, dispatch {} sampleContext (wanted crowdedSpecs) = (flows, none) :=
    dispatch_succeeds (by decide +kernel)
  have hlength : flows.length = 101 := by
    have hitems := congrArg List.length (dispatch_items hdispatch)
    rw [List.length_map] at hitems
    rw [hitems]
    decide +kernel
  obtain ⟨g, hreach, hend⟩ := @Gathering.burst_closed flows _ (by rw [hlength]; decide)
  have hends := Ends.gathered hdispatch hreach hend
  rw [hlength] at hends
  exact ⟨flows, g.received, hends⟩

end Acquisition

end Conformance
