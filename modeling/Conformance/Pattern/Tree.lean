import Conformance.Pattern.Error
import Conformance.Pattern.Property

/-!
# Patterns as written

The tree of a pattern, every node with the part of the pattern that it covers, so that what is wrong
with it can be pointed at.
-/

namespace Conformance.Pattern

/-- What matches a place between characters. -/
inductive Assertion where
  | startLine
  | endLine
  | startText
  | endText
  | wordBoundary
  | notWordBoundary
  | wordStart
  | wordEnd
  | wordStartHalf
  | wordEndHalf
  deriving DecidableEq, Repr

/-- A class with a letter of its own. -/
inductive ClassKind where
  | digit
  | space
  | word
  deriving DecidableEq, Repr

/-- What changes the meaning of a pattern. -/
inductive Flag where
  /-- Letter case does not matter. -/
  | caseInsensitive
  /-- Lines have starts and ends of their own. -/
  | multiLine
  /-- The dot matches line feeds too. -/
  | dotAll
  /-- Repetitions prefer few rounds unless marked. -/
  | swapGreed
  /-- Classes and letter case go by Unicode. -/
  | unicode
  /-- A carriage return ends a line too. -/
  | carriageReturn
  /-- Blanks and comments are skipped. -/
  | spaced
  deriving DecidableEq, Repr

/-- A list of flags with whether each is turned on. -/
abbrev FlagList := List (Flag × Bool)

/-- What a flag is set to by a list. -/
def FlagList.state? (flags : FlagList) (flag : Flag) : Option Bool :=
  (flags.find? fun e => e.1 == flag).map (·.2)

/-- A character as written. -/
structure Literal where
  /-- Where it stands. -/
  span : Span
  /-- The character. -/
  char : Char
  /-- Whether it is written as a byte of two hexadecimal digits. -/
  byte : Bool := false
  deriving DecidableEq, Repr, Inhabited

/-- A pattern without parts. -/
inductive Atom where
  | literal (value : Literal)
  | dot (span : Span)
  | assertion (span : Span) (kind : Assertion)
  | letterClass (span : Span) (kind : ClassKind) (negated : Bool)
  | property (span : Span) (query : PropertyQuery) (negated : Bool)
  deriving Repr

/-- Where an atom stands. -/
def Atom.span : Atom → Span
  | .literal l => l.span
  | .dot s => s
  | .assertion s _ => s
  | .letterClass s _ _ => s
  | .property s _ _ => s

/-- How two sets are combined. -/
inductive SetOperation where
  | intersection
  | difference
  | symmetricDifference
  deriving DecidableEq, Repr

/-- A set of characters as written between brackets. -/
inductive SetTree where
  | literal (value : Literal)
  | range (span : Span) (first last : Literal)
  | ascii (span : Span) (members : List (Nat × Nat)) (negated : Bool)
  | letterClass (span : Span) (kind : ClassKind) (negated : Bool)
  | property (span : Span) (query : PropertyQuery) (negated : Bool)
  | bracketed (span : Span) (negated : Bool) (set : SetTree)
  | union (span : Span) (items : List SetTree)
  | operation (span : Span) (op : SetOperation) (left right : SetTree)

instance : Inhabited SetTree := ⟨.union default []⟩

/-- Where a set stands. -/
def SetTree.span : SetTree → Span
  | .literal l => l.span
  | .range s _ _ => s
  | .ascii s _ _ => s
  | .letterClass s _ _ => s
  | .property s _ _ => s
  | .bracketed s _ _ => s
  | .union s _ => s
  | .operation s _ _ _ => s

/-- A pattern. -/
inductive Tree where
  | empty
  | flags (flags : FlagList)
  | atom (value : Atom)
  | bracketed (span : Span) (negated : Bool) (set : SetTree)
  | repetition (span : Span) (least : Nat) (most : Option Nat) (greedy : Bool) (body : Tree)
  | capture (span : Span) (number : Nat) (body : Tree)
  | group (span : Span) (flags : FlagList) (body : Tree)
  | alternation (span : Span) (branches : List Tree)
  | concat (span : Span) (items : List Tree)

instance : Inhabited Tree := ⟨.empty⟩

/-! ## Nesting -/

/-- How deep a pattern may be nested. -/
def nestingLimit : Nat := 250

/-- Go one level deeper at a node. -/
def deeper (depth : Nat) (span : Span) : Except Fault Nat :=
  if depth < nestingLimit then .ok (depth + 1) else .error { cause := .nesting nestingLimit, span }

mutual

/-- Refuse a set that is nested too deeply. -/
def SetTree.checkNesting (depth : Nat) : SetTree → Except Fault Unit
  | .bracketed span _ set => do set.checkNesting (← deeper depth span)
  | .union span items => do SetTree.checkAll (← deeper depth span) items
  | .operation span _ left right => do
      let depth ← deeper depth span
      left.checkNesting depth
      right.checkNesting depth
  | .literal _ => .ok ()
  | .range .. => .ok ()
  | .ascii .. => .ok ()
  | .letterClass .. => .ok ()
  | .property .. => .ok ()

/-- Refuse sets of which one is nested too deeply. -/
def SetTree.checkAll (depth : Nat) : List SetTree → Except Fault Unit
  | [] => .ok ()
  | s :: rest => do
      s.checkNesting depth
      SetTree.checkAll depth rest

end

mutual

/-- Refuse a pattern that is nested too deeply. -/
def Tree.checkNesting (depth : Nat) : Tree → Except Fault Unit
  | .empty => .ok ()
  | .flags _ => .ok ()
  | .atom _ => .ok ()
  | .bracketed span _ set => do set.checkNesting (← deeper depth span)
  | .repetition span _ _ _ body => do body.checkNesting (← deeper depth span)
  | .capture span _ body => do body.checkNesting (← deeper depth span)
  | .group span _ body => do body.checkNesting (← deeper depth span)
  | .alternation span branches => do Tree.checkAll (← deeper depth span) branches
  | .concat span items => do Tree.checkAll (← deeper depth span) items

/-- Refuse patterns of which one is nested too deeply. -/
def Tree.checkAll (depth : Nat) : List Tree → Except Fault Unit
  | [] => .ok ()
  | t :: rest => do
      t.checkNesting depth
      Tree.checkAll depth rest

end

end Conformance.Pattern
