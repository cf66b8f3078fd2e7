import Conformance.Consent.Item
import Conformance.Machine
import Conformance.Runner

/-!
# Waiting for consents

Collecting the items of consent flows from a channel, until enough have arrived, the channel closes
or the time is up. A wait begins with telling its deadline and setting room aside for the items; where the
machine can do neither, it stops the program.
-/

namespace Conformance

/-- Why consents were not acquired. -/
inductive ConsentError where
  /-- The time was up before enough items had arrived. -/
  | timeout (received required : Nat) (items : List ConsentItem)
  /-- All flows had ended before enough items had arrived. -/
  | closed (received required : Nat) (items : List ConsentItem)
  /-- Enough items arrived, but some flows failed. -/
  | flowsFailed (messages : List String) (items : List ConsentItem)
  /-- A flow did not start. -/
  | notStarted (error : StartError)

namespace ConsentError

/-- The message of consents that were not acquired. -/
def message : ConsentError → String
  | .timeout received required _ =>
      "consent channel timeout: received " ++ Text.decimal received ++ " of " ++
        Text.decimal required ++ " items"
  | .closed received required _ =>
      "consent channel closed: received " ++ Text.decimal received ++ " of " ++
        Text.decimal required ++ " items"
  | .flowsFailed messages _ => "consent acquisition failed: " ++ "; ".intercalate messages
  | .notStarted e => "consent flow not started: " ++ e.message

/-- The items that had arrived. -/
def items : ConsentError → List ConsentItem
  | .timeout _ _ items => items
  | .closed _ _ items => items
  | .flowsFailed _ items => items
  | .notStarted _ => []

end ConsentError

/-! ## Feeds -/

/-- What happens to a channel of items. -/
inductive FeedEvent where
  /-- An item is sent. -/
  | sent (item : ConsentItem)
  /-- The last sender is gone. -/
  | closed
  deriving DecidableEq, Repr

/-- What happens to a channel of items and when, counted from the start of the wait; what has
happened before stands at time zero. -/
abbrev Feed := List (Nat × FeedEvent)

namespace Feed

/-- How many items may wait in the channel of an acquisition. -/
def capacity : Nat := 100

/-- The feed of items with the times at which they are sent. The ones at time zero are in the
channel already, as many as fit; the channel closes after the last item unless it is kept open. -/
def ofSends (keepOpen : Bool) (sends : List (Nat × ConsentItem)) : Feed :=
  let early := (sends.filter fun s => s.1 == 0).take capacity
  let late := (sends.filter fun s => s.1 != 0).mergeSort fun a b => a.1 ≤ b.1
  let events := (early ++ late).map fun s => (s.1, FeedEvent.sent s.2)
  if keepOpen then events else events ++ [((late.getLast?.map (·.1)).getD 0, .closed)]

end Feed

/-! ## Waiting -/

/-- The outcome when enough items have arrived. -/
def settleItems (items : List ConsentItem) : Except ConsentError (List ConsentItem) :=
  let failures := items.filter (·.isError)
  if failures.isEmpty then .ok items
  else .error (.flowsFailed (failures.map (·.failure)) items)

/-- Receive from a feed until enough items have arrived: the outcome, and what is left of the feed.
What happens at the deadline or later comes too late, unless it has happened before the wait
began. -/
def receiveItems (required deadline : Nat) (received : List ConsentItem) :
    Feed → Except ConsentError (List ConsentItem) × Feed
  | feed =>
      if required ≤ received.length then (settleItems received, feed)
      else
        match feed with
        | [] => (.error (.timeout received.length required received), [])
        | (time, event) :: rest =>
            if time ≠ 0 ∧ deadline ≤ time then
              (.error (.timeout received.length required received), (time, event) :: rest)
            else
              match event with
              | .sent item => receiveItems required deadline (received ++ [item]) rest
              | .closed =>
                  (.error (.closed received.length required received), (time, .closed) :: rest)

/-- What comes of a wait that has begun. -/
def waitForItems (required deadline : Nat) (feed : Feed) :
    Except ConsentError (List ConsentItem) :=
  (receiveItems required deadline [] feed).1

/-- What a wait that has begun leaves of the feed. -/
def leftByWait (required deadline : Nat) (feed : Feed) : Feed :=
  (receiveItems required deadline [] feed).2

namespace Machine

/-- Begin a wait: tell the deadline, then set room aside for the items. -/
def beginWait (m : Machine) (required timeout : Nat) : Except Halt Nat :=
  match m.clock.ahead? timeout with
  | none => .error .untold
  | some deadline => if required ≤ m.room then .ok deadline else .error .crowded

/-- Wait for a number of items: the outcome, and what is left of the feed, whose times are counted from
the beginning of the wait. -/
def wait (m : Machine) (required timeout : Nat) (feed : Feed) :
    Except Halt (Except ConsentError (List ConsentItem) × Feed) := do
  let deadline ← m.beginWait required timeout
  return (waitForItems required (deadline - m.clock.now) feed,
    leftByWait required (deadline - m.clock.now) feed)

end Machine

end Conformance
