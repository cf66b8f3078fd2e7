import Conformance.Consent.Gathering
import Conformance.Walk.Course
import Mathlib.Data.List.Perm.Subperm

/-!
# Interleavings of consent flows

Consent flows that are started together run in any order, get any answers, and send their items into
one channel from which the items are received. `Gathering` is what they share, `Gathering.Step` one
move of one of them, and `Gathering.Reachable` any number of moves. A flow is known by the name of its
token and the permissions that it asks for (`ConsentItem.key`).

* `Step.keys_subperm`: no move adds an item; the only items that are lost are the ones that the
  channel has no room for.
* `Reachable.keys_subperm`: so what has been received is part of what was started.
* `Gathering.Ending` says how the receiver may end, and `Acquisition.Ends` what an acquisition may
  come to.
-/

namespace Conformance

/-- What a flow is known by: the name of its token and the permissions that it asks for. -/
def ConsentItem.key (i : ConsentItem) : String × String := (i.tokenName, i.permissions)

/-- However a flow ends, its item is that of its token. -/
theorem ConsentFlow.report_key (f : ConsentFlow) (ctx : Context) (ending : Walk.Ending) :
    (f.report ctx ending).key = f.item.key := by
  cases ending <;> rfl

/-- A channel takes in what is sent at its end, or drops it. -/
theorem Channel.send_queue {α : Type} (c : Channel α) (a : α) :
    (c.send a).2.queue = c.queue ++ [a] ∨ (c.send a).2.queue = c.queue := by
  unfold Channel.send
  split
  · exact .inr rfl
  · split
    · exact .inl rfl
    · exact .inr rfl

namespace Gathering

/-! ## What a move keeps -/

/-- What is received, waits in the channel or is still to be sent. -/
def keys (g : Gathering) : List (String × String) :=
  (g.received ++ g.channel.queue).map ConsentItem.key ++ g.running.map fun p => p.1.item.key

theorem keys_start (flows : List ConsentFlow) :
    (start flows).keys = flows.map fun f => f.item.key := by
  simp [keys, start, Function.comp_def]

theorem keys_perm_of_running {g : Gathering} {f : ConsentFlow} {w : Walk}
    {rest : List (ConsentFlow × Walk)} (hrun : g.running.Perm ((f, w) :: rest)) :
    ((g.received ++ g.channel.queue).map ConsentItem.key ++
      f.item.key :: rest.map fun p => p.1.item.key).Perm g.keys := by
  refine List.Perm.append_left _ ?_
  exact (hrun.map fun p : ConsentFlow × Walk => p.1.item.key).symm

/-- No move adds an item. -/
theorem Step.keys_subperm [Idna] {required : Nat} {g g' : Gathering} (h : Step required g g') :
    g'.keys.Subperm g.keys := by
  cases h with
  | advance stopped hrun => exact (keys_perm_of_running hrun).subperm
  | answer schemas a hrun => exact (keys_perm_of_running hrun).subperm
  | @send f w rest ending hrun hend =>
      refine List.Subperm.trans ?_ (keys_perm_of_running hrun).subperm
      unfold keys
      rcases Channel.send_queue g.channel (f.report w.ctx ending) with hq | hq
      · -- The item of the flow moves from the flows to the end of the queue.
        rw [hq, ← List.append_assoc, List.map_append, List.map_singleton, f.report_key,
          List.append_assoc, List.singleton_append]
      · rw [hq]
        exact (List.Sublist.append_left (List.sublist_cons_self _ _) _).subperm
  | receive hshort hqueue =>
      unfold keys
      rw [hqueue, List.append_assoc, List.singleton_append]

theorem Step.received_le [Idna] {required : Nat} {g g' : Gathering} (h : Step required g g')
    (hg : g.received.length ≤ required) : g'.received.length ≤ required := by
  cases h with
  | advance => exact hg
  | answer => exact hg
  | send => exact hg
  | receive hshort =>
      rw [List.length_append, List.length_singleton]
      exact hshort

/-! ## What any number of moves keeps -/

theorem Reachable.keys_subperm [Idna] {required : Nat} {g g' : Gathering}
    (h : Reachable required g g') :
    g'.keys.Subperm g.keys := by
  induction h with
  | refl => exact .refl _
  | tail _ hstep ih => exact hstep.keys_subperm.trans ih

theorem Reachable.received_le [Idna] {required : Nat} {g g' : Gathering}
    (h : Reachable required g g')
    (hg : g.received.length ≤ required) : g'.received.length ≤ required := by
  induction h with
  | refl => exact hg
  | tail _ hstep ih => exact hstep.received_le ih

/-- Once as many items have been received as flows were started, they are the items of those flows,
one each. -/
theorem Reachable.received_perm [Idna] {flows : List ConsentFlow} {g : Gathering}
    (h : Reachable flows.length (start flows) g) (henough : flows.length ≤ g.received.length) :
    (g.received.map ConsentItem.key).Perm (flows.map fun f => f.item.key) := by
  have hsub : (g.received.map ConsentItem.key).Subperm (flows.map fun f => f.item.key) := by
    rw [← keys_start]
    refine List.Subperm.trans (List.Sublist.subperm ?_) h.keys_subperm
    rw [keys, List.map_append, List.append_assoc]
    exact List.sublist_append_left _ _
  refine hsub.perm_of_length_le ?_
  rw [List.length_map, List.length_map]
  exact henough

/-! ## A flow on its own -/

/-- While nothing else happens, a flow may make any moves of its course. -/
theorem reachable_play [Idna] (required : Nat) (f : ConsentFlow) (c : Walk.Course)
    (moves : List Walk.Move) {rest : List (ConsentFlow × Walk)} {channel : Channel ConsentItem}
    {received : List ConsentItem} :
    Reachable required ⟨(f, c.walk) :: rest, channel, received⟩
      ⟨(f, (c.play moves).walk) :: rest, channel, received⟩ := by
  induction moves generalizing c with
  | nil => exact .refl
  | cons m moves ih =>
      -- A move that does not fit where the flow stands is none of the gathering.
      have hstep : Reachable required ⟨(f, c.walk) :: rest, channel, received⟩
          ⟨(f, (c.step m).walk) :: rest, channel, received⟩ := by
        cases m with
        | advance stopped =>
            unfold Walk.Course.step
            dsimp only
            split
            · exact .single (.advance stopped (.refl _))
            · exact .refl
        | receive schemas a =>
            unfold Walk.Course.step
            dsimp only
            split
            · exact .single (.answer schemas a (.refl _))
            · exact .refl
      exact hstep.trans (ih (c.step m))

end Gathering

end Conformance
