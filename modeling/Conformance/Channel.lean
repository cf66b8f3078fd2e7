/-!
# Channels

A queue of bounded length between senders and one receiver. Sending never waits: what finds the
queue full, or no receiver, is dropped.
-/

namespace Conformance

universe u

/-- A queue of bounded length between senders and one receiver. -/
structure Channel (α : Type u) where
  /-- How many values may wait in the queue. -/
  capacity : Nat
  /-- The values that wait to be received, oldest first. -/
  queue : List α := []
  /-- Whether there is someone to receive them. -/
  hasReceiver : Bool := true

/-- What becomes of a value that is sent. -/
inductive SendOutcome where
  | accepted
  /-- The value is dropped: the queue is full. -/
  | full
  /-- The value is dropped: nobody will receive it. -/
  | abandoned
  deriving DecidableEq, Repr

namespace Channel

variable {α : Type u}

/-- Send a value. -/
def send (c : Channel α) (a : α) : SendOutcome × Channel α :=
  if !c.hasReceiver then (.abandoned, c)
  else if c.queue.length < c.capacity then (.accepted, { c with queue := c.queue ++ [a] })
  else (.full, c)

/-- Receive the oldest value, if one is waiting. -/
def receive (c : Channel α) : Option α × Channel α :=
  match c.queue with
  | [] => (none, c)
  | a :: rest => (some a, { c with queue := rest })

/-- Receive all values that are waiting. -/
def receiveAll (c : Channel α) : List α × Channel α := (c.queue, { c with queue := [] })

/-- Send no more to anyone: the receiver leaves, and what was waiting is lost. -/
def dropReceiver (c : Channel α) : Channel α := { c with queue := [], hasReceiver := false }

end Channel

end Conformance
