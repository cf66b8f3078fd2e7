import Conformance.Pattern.Reading

/-!
# The meaning of patterns

What a pattern matches, with its flags worked into sets, assertions and repetitions. A pattern may
only match whole characters, so a set of bytes has to stay within ASCII.
-/

namespace Conformance.Pattern

/-- What holds at a place between characters. -/
inductive Look where
  | textStart
  | textEnd
  /-- The text begins here or a line does; carriage returns may end lines. -/
  | lineStart (carriageReturn : Bool)
  /-- The text ends here or a line does; carriage returns may end lines. -/
  | lineEnd (carriageReturn : Bool)
  /-- A boundary of words, by Unicode or by ASCII. -/
  | word (kind : Assertion) (unicode : Bool)
  deriving DecidableEq, Repr

/-- What a pattern matches. -/
inductive Node where
  | empty
  | set (members : Charset)
  | look (kind : Look)
  | repetition (least : Nat) (most : Option Nat) (greedy : Bool) (body : Node)
  | capture (number : Nat) (body : Node)
  | concat (items : List Node)
  | alternation (branches : List Node)

instance : Inhabited Node := ⟨.empty⟩

/-- The flags in force at a place of a pattern. -/
structure Mode where
  /-- Letter case does not matter. -/
  caseInsensitive : Bool := false
  /-- Lines have starts and ends of their own. -/
  multiLine : Bool := false
  /-- The dot matches line feeds too. -/
  dotAll : Bool := false
  /-- Repetitions prefer few rounds unless marked. -/
  swapGreed : Bool := false
  /-- Classes and letter case go by Unicode. -/
  unicode : Bool := true
  /-- A carriage return ends a line too. -/
  carriageReturn : Bool := false

namespace Mode

/-- Set flags. -/
def apply (m : Mode) (flags : FlagList) : Mode where
  caseInsensitive := (flags.state? .caseInsensitive).getD m.caseInsensitive
  multiLine := (flags.state? .multiLine).getD m.multiLine
  dotAll := (flags.state? .dotAll).getD m.dotAll
  swapGreed := (flags.state? .swapGreed).getD m.swapGreed
  unicode := (flags.state? .unicode).getD m.unicode
  carriageReturn := (flags.state? .carriageReturn).getD m.carriageReturn

/-! ## Sets -/

/-- The complement by the flags: of the characters, or of the bytes. -/
def complement (m : Mode) (s : Charset) : Charset :=
  if m.unicode then s.complement else s.complementTo 0xFF

/-- A set closed under letter case if the flags say so. -/
def folded (m : Mode) (s : Charset) : Charset :=
  if m.caseInsensitive then (if m.unicode then s.foldCase else s.foldAsciiCase) else s

/-- A set that has to consist of whole characters. -/
def whole (m : Mode) (span : Span) (s : Charset) : Except Fault Charset :=
  if m.unicode || s.isAscii then .ok s else .error { cause := .notText, span }

/-- A set after letter case and negation. -/
def finished (m : Mode) (span : Span) (negated : Bool) (s : Charset) : Except Fault Charset :=
  let s := m.folded s
  m.whole span (if negated then m.complement s else s)

/-- The set of a letter class. -/
def letterSet (m : Mode) (span : Span) (kind : ClassKind) (negated : Bool) :
    Except Fault Charset :=
  let s : Charset :=
    match m.unicode, kind with
    | true, .digit => PropertyQuery.digit
    | true, .space => PropertyQuery.blank
    | true, .word => PropertyQuery.word
    | false, .digit => ⟨[(0x30, 0x39)]⟩
    | false, .space => ⟨[(9, 13), (0x20, 0x20)]⟩
    | false, .word => ⟨[(0x30, 0x39), (0x41, 0x5A), (0x5F, 0x5F), (0x61, 0x7A)]⟩
  m.whole span (if negated then m.complement s else s)

/-- The set of a property. -/
def propertySet (m : Mode) (span : Span) (query : PropertyQuery) (negated : Bool) :
    Except Fault Charset :=
  if !m.unicode then .error { cause := .unicodeForbidden, span }
  else
    match query.resolve with
    | .error .unknownProperty => .error { cause := .propertyUnknown, span }
    | .error .unknownValue => .error { cause := .propertyValueUnknown, span }
    | .ok s => m.finished span negated s

/-- A character of a set. -/
def memberChar (m : Mode) (l : Literal) : Except Fault Char :=
  if m.unicode || l.char.toNat < 0x80 then .ok l.char
  else .error { cause := if l.byte then .notText else .unicodeForbidden, span := l.span }

mutual

/-- The set of characters that is written between brackets. -/
def setOf (m : Mode) : SetTree → Except Fault Charset
  | .literal l => do return .single (← m.memberChar l)
  | .range _ first last => do
      let a ← m.memberChar first
      let b ← m.memberChar last
      return .range a b
  | .ascii span members negated => m.finished span negated (.ofSpans members)
  | .letterClass span kind negated => m.letterSet span kind negated
  | .property span query negated => m.propertySet span query negated
  | .bracketed span negated set => do m.finished span negated (← setOf m set)
  | .union _ items => do return .unions (← setsOf m items)
  | .operation _ op left right => do
      let left := m.folded (← setOf m left)
      let right := m.folded (← setOf m right)
      match op with
      | .intersection => return left.inter right
      | .difference => return left.diff right
      | .symmetricDifference => return left.symmDiff right

/-- The sets of characters of several members. -/
def setsOf (m : Mode) : List SetTree → Except Fault (List Charset)
  | [] => .ok []
  | s :: rest => do
      let first ← setOf m s
      let others ← setsOf m rest
      return first :: others

end

/-! ## Atoms -/

/-- A character outside brackets. -/
def literalNode (m : Mode) (l : Literal) : Except Fault Node :=
  if !m.unicode && l.byte && 0x80 ≤ l.char.toNat then
    .error { cause := .notText, span := l.span }
  else if m.unicode || l.char.toNat < 0x80 then .ok (.set (m.folded (.single l.char)))
  else .ok (.set (.single l.char))

/-- The dot. -/
def dotNode (m : Mode) (span : Span) : Except Fault Node :=
  if !m.unicode then .error { cause := .notText, span }
  else if m.dotAll then .ok (.set .all)
  else if m.carriageReturn then .ok (.set (Charset.complement ⟨[(10, 10), (13, 13)]⟩))
  else .ok (.set (Charset.complement ⟨[(10, 10)]⟩))

/-- What an assertion looks at. -/
def lookOf (m : Mode) : Assertion → Look
  | .startLine => if m.multiLine then .lineStart m.carriageReturn else .textStart
  | .endLine => if m.multiLine then .lineEnd m.carriageReturn else .textEnd
  | .startText => .textStart
  | .endText => .textEnd
  | kind => .word kind m.unicode

/-- What an atom matches. -/
def atomNode (m : Mode) : Atom → Except Fault Node
  | .literal l => m.literalNode l
  | .dot span => m.dotNode span
  | .assertion _ kind => .ok (.look (m.lookOf kind))
  | .letterClass span kind negated => (m.letterSet span kind negated).map .set
  | .property span query negated => (m.propertySet span query negated).map .set

end Mode

/-! ## Patterns -/

mutual

/-- What a pattern matches, and the flags in force after it. -/
def Tree.node (m : Mode) : Tree → Except Fault (Node × Mode)
  | .empty => .ok (.empty, m)
  | .flags list => .ok (.empty, m.apply list)
  | .atom a => do return (← m.atomNode a, m)
  | .bracketed span negated set => do return (.set (← m.finished span negated (← m.setOf set)), m)
  | .repetition _ least most greedy body => do
      let (inner, after) ← body.node m
      return (.repetition least most (if after.swapGreed then !greedy else greedy) inner, after)
  | .capture _ number body => do
      let (inner, _) ← body.node m
      return (.capture number inner, m)
  | .group _ list body => do
      let (inner, _) ← body.node (m.apply list)
      return (inner, m)
  | .alternation _ branches => do
      let (inner, after) ← Tree.nodes m branches
      return (.alternation inner, after)
  | .concat _ items => do
      let (inner, after) ← Tree.nodes m items
      return (.concat inner, after)

/-- What patterns match one after the other, flags being handed on. -/
def Tree.nodes (m : Mode) : List Tree → Except Fault (List Node × Mode)
  | [] => .ok ([], m)
  | t :: rest => do
      let (first, after) ← t.node m
      let (others, after) ← Tree.nodes after rest
      return (first :: others, after)

end

/-- What a pattern matches. -/
def Node.read (pattern : String) : Except Fault Node := do
  let tree ← Tree.read pattern
  let (node, _) ← tree.node {}
  return node

end Conformance.Pattern
