/-!
# Machines

What a program is given by the machine that it runs on, and where the machine stops it: a clock that cannot
tell every time, and a memory that has not room for everything.
-/

namespace Conformance

/-- A clock that counts nanoseconds and cannot tell times after a last one. -/
structure Clock where
  /-- The time. -/
  now : Nat
  /-- The last time that it can tell. -/
  last : Nat
  deriving DecidableEq, Repr

/-- The time that lies a number of nanoseconds ahead, if the clock can tell it. -/
def Clock.ahead? (c : Clock) (nanos : Nat) : Option Nat :=
  if c.now + nanos ≤ c.last then some (c.now + nanos) else none

/-- A machine, as far as it counts for a wait for consent items. -/
structure Machine where
  /-- The clock. -/
  clock : Clock
  /-- The greatest number of items for which it can set room aside. -/
  room : Nat
  deriving DecidableEq, Repr

/-- Why a machine stops a program. -/
inductive Halt where
  /-- The clock cannot tell a time. -/
  | untold
  /-- There is no room. -/
  | crowded
  deriving DecidableEq, Repr

/-- The machines with words of 64 bits. Their clocks count whole seconds in a signed word; what a list
keeps takes fewer than `2 ^ 63` bytes, and an item, which has six texts of three words each, takes 144. -/
def Machine.wide (now : Nat) : Machine where
  clock := { now, last := Nat.pow 2 63 * 1000000000 - 1 }
  room := (Nat.pow 2 63 - 1) / 144

end Conformance
