import Conformance.Binary64
import Conformance.KeyMap

/-!
# JSON values

A JSON value as a tree. A number keeps apart whole numbers and floating-point ones; an object is a
list of members, which reading from text orders by name.
-/

namespace Conformance

/-- A JSON number. -/
inductive Json.Number where
  /-- A whole number between `-2 ^ 63` and `2 ^ 64 - 1`. -/
  | int (value : Int)
  /-- Any other number, rounded. -/
  | float (value : Binary64)
  deriving DecidableEq, Repr

/-- A JSON value. -/
inductive Json where
  | null
  | bool (value : Bool)
  | number (value : Json.Number)
  | string (value : String)
  | array (items : List Json)
  | object (members : List (String × Json))
  deriving Inhabited, Repr

namespace Json

/-- A whole number as a value. -/
def nat (n : Nat) : Json := .number (.int n)

/-- A list of texts as a value. -/
def strings (items : List String) : Json := .array (items.map .string)

/-- A map as an object. -/
def ofKeyMap {α : Type} (f : α → Json) (m : KeyMap α) : Json :=
  .object (m.entries.map fun e => (e.1, f e.2))

/-- A map of texts as an object. -/
def ofTexts (m : KeyMap String) : Json := ofKeyMap .string m

/-- An optional value, nothing being `null`. -/
def ofOption {α : Type} (f : α → Json) : Option α → Json
  | none => .null
  | some a => f a

/-- The object of a list of members whose later ones win, ordered by name. -/
def objectOf (members : List (String × Json)) : Json :=
  .object (KeyMap.ofList members).entries

/-- The value of the named member of an object. -/
def member? : Json → String → Option Json
  | .object members, name => (members.find? fun m => m.1 == name).map (·.2)
  | _, _ => none

/-- The text that a value holds, if it is one. -/
def string? : Json → Option String
  | .string s => some s
  | _ => none

/-- The items of an array. -/
def array? : Json → Option (List Json)
  | .array items => some items
  | _ => none

/-- The truth value that a value holds, if it is one. -/
def bool? : Json → Option Bool
  | .bool b => some b
  | _ => none

/-- The whole number not below zero that a value holds, if it is one. -/
def nat? : Json → Option Nat
  | .number (.int (.ofNat n)) => some n
  | _ => none

/-! ## Optional members -/

/-- The member, unless its text is empty. -/
def unlessBlank (name : String) (value : String) : List (String × Json) :=
  if value.isEmpty then [] else [(name, .string value)]

/-- The member, unless its list is empty. -/
def unlessNone {α : Type} (name : String) (items : List α) (f : α → Json) :
    List (String × Json) :=
  if items.isEmpty then [] else [(name, .array (items.map f))]

/-- The member, unless its map is empty. -/
def unlessEmpty (name : String) (m : KeyMap String) : List (String × Json) :=
  if m.isEmpty then [] else [(name, ofTexts m)]

/-- The member, if there is a value. -/
def whenSome {α : Type} (name : String) (value : Option α) (f : α → Json) :
    List (String × Json) :=
  match value with
  | none => []
  | some a => [(name, f a)]

end Json

end Conformance
