import Conformance.Channel
import Conformance.Consent.Acquisition
import Mathlib.Logic.Relation

/-!
# Gatherings

Consent flows that are started together, and their items on the way to the receiver. A flow makes moves,
and sends its item when it has ended; the receiver takes items off the channel, until it has enough,
until nobody is left to send, or until the time is up.
-/

namespace Conformance

/-- Consent flows that have been started together, and what has become of their items. -/
structure Gathering where
  /-- The flows that have not sent their item, each with where it stands. -/
  running : List (ConsentFlow × Walk)
  /-- The channel that they send into. -/
  channel : Channel ConsentItem
  /-- The items that have been received, in order. -/
  received : List ConsentItem

namespace Gathering

/-- Flows that have just been started. -/
def start (flows : List ConsentFlow) : Gathering where
  running := flows.map fun f => (f, f.walk)
  channel := { capacity := Feed.capacity }
  received := []

variable [Idna]

/-- One move of one flow or of the receiver, which waits for a number of items. -/
inductive Step (required : Nat) (g : Gathering) : Gathering → Prop
  /-- A flow takes up its next test case, or ends; it may have been asked to stop. -/
  | advance {f : ConsentFlow} {w : Walk} {rest : List (ConsentFlow × Walk)} (stopped : Bool)
      (hrun : g.running.Perm ((f, w) :: rest)) :
      Step required g { g with running := (f, (w.advance stopped).2) :: rest }
  /-- A flow gets the answer to its request; it may be judged by schemas. -/
  | answer {f : ConsentFlow} {w : Walk} {rest : List (ConsentFlow × Walk)}
      (schemas : Option SchemaCheck) (a : Answer) (hrun : g.running.Perm ((f, w) :: rest)) :
      Step required g { g with running := (f, (w.receive schemas a).2) :: rest }
  /-- A flow that has come to its end sends its item and is gone. -/
  | send {f : ConsentFlow} {w : Walk} {rest : List (ConsentFlow × Walk)} {ending : Walk.Ending}
      (hrun : g.running.Perm ((f, w) :: rest)) (hend : w.place = .ended ending) :
      Step required g
        { g with running := rest, channel := (g.channel.send (f.report w.ctx ending)).2 }
  /-- The receiver, short of items, takes one off the channel. -/
  | receive {item : ConsentItem} {queue : List ConsentItem}
      (hshort : g.received.length < required) (hqueue : g.channel.queue = item :: queue) :
      Step required g { g with
        channel := { g.channel with queue := queue }, received := g.received ++ [item] }

/-- What may come of any number of moves. -/
def Reachable (required : Nat) : Gathering → Gathering → Prop :=
  Relation.ReflTransGen (Step required)

/-- How the receiver may end. The deadline may pass at any moment at which items are missing. -/
inductive Ending (required : Nat) (g : Gathering) :
    Except ConsentError (List ConsentItem) → Prop
  /-- Enough items have been received. -/
  | enough (h : required ≤ g.received.length) : Ending required g (settleItems g.received)
  /-- All flows are gone and nothing is left in the channel. -/
  | closed (hshort : g.received.length < required) (hgone : g.running = [])
      (hempty : g.channel.queue = []) :
      Ending required g (.error (.closed g.received.length required g.received))
  /-- The time is up. -/
  | timeout (hshort : g.received.length < required) :
      Ending required g (.error (.timeout g.received.length required g.received))

end Gathering

/-! ## Acquisitions -/

/-- What an acquisition may come to: the flows that were started, the outcome, and the shared context
after it. -/
inductive Acquisition.Ends [Idna] (d : RunDefinition) (ctx : Context) (specs : List SpecTokens) :
    List ConsentFlow → Except ConsentError (List ConsentItem) → Context → Prop
  /-- A flow is refused. -/
  | refused {flows : List ConsentFlow} {e : StartError}
      (hdispatch : dispatch d ctx (wanted specs) = (flows, some e)) :
      Ends d ctx specs flows (.error (.notStarted e)) (conclude ctx (.error (.notStarted e)))
  /-- All flows are started, and their items are waited for. -/
  | gathered {flows : List ConsentFlow} {g : Gathering}
      {outcome : Except ConsentError (List ConsentItem)}
      (hdispatch : dispatch d ctx (wanted specs) = (flows, none))
      (hreach : Gathering.Reachable flows.length (.start flows) g)
      (hend : g.Ending flows.length outcome) :
      Ends d ctx specs flows outcome (conclude ctx outcome)

end Conformance
