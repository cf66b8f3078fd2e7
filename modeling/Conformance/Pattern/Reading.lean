import Conformance.Pattern.Tree
import Conformance.Text.Blank

/-!
# Reading patterns

From the text of a pattern to its tree. Reading goes from left to right and stops at the first thing
that is wrong. In a pattern that is read as spaced, blanks and comments from a number sign to the end
of the line count only within escapes that keep them.
-/

namespace Conformance.Pattern

/-- How far a pattern is read. -/
structure Reading where
  /-- What is left. -/
  rest : List Char
  /-- The place where it begins. -/
  place : Place := ⟨0, 1, 1⟩
  /-- Whether blanks and comments are skipped. -/
  spaced : Bool := false
  /-- The number of capture groups so far. -/
  captures : Nat := 0
  /-- The names of groups so far, with where they stand. -/
  names : List (List Char × Span) := []

/-- A step of reading. -/
abbrev Read := StateT Reading (Except Fault)

/-- The place after a character. -/
def Place.after (p : Place) (c : Char) : Place :=
  if c = '\n' then ⟨p.index + 1, p.line + 1, 1⟩ else ⟨p.index + 1, p.line, p.column + 1⟩

namespace Reading

/-! ## Moving on -/

/-- Give up because of a part of the pattern. -/
def fail {α : Type} (cause : Cause) (span : Span) : Read α := throw { cause, span }

/-- The character at hand. -/
def char? : Read (Option Char) := do return (← get).rest.head?

/-- Whether the character at hand is `c`. -/
def at? (c : Char) : Read Bool := do return (← char?) == some c

/-- Whether nothing is left. -/
def atEnd : Read Bool := do return (← get).rest.isEmpty

/-- The place of the character at hand. -/
def here : Read Place := do return (← get).place

/-- The empty part before the character at hand. -/
def spanHere : Read Span := do
  let p ← here
  return ⟨p, p⟩

/-- The part from a place up to the character at hand. -/
def spanFrom (start : Place) : Read Span := do return ⟨start, ← here⟩

/-- The part of the character at hand. -/
def spanChar : Read Span := do
  let s ← get
  match s.rest with
  | [] => return ⟨s.place, s.place⟩
  | c :: _ => return ⟨s.place, s.place.after c⟩

/-- Go past one character, and tell whether another follows. -/
def bump : Read Bool := do
  let s ← get
  match s.rest with
  | [] => return false
  | c :: rest =>
      set { s with rest := rest, place := s.place.after c }
      return !rest.isEmpty

/-- What follows blanks and comments. -/
def skipFrom : Bool → Place → List Char → Place × List Char
  | _, p, [] => (p, [])
  | inComment, p, c :: rest =>
      if inComment then skipFrom (c != '\n') (p.after c) rest
      else if Text.isBlank c then skipFrom false (p.after c) rest
      else if c = '#' then skipFrom true (p.after c) rest
      else (p, c :: rest)

/-- Go past blanks and comments in a spaced pattern. -/
def skipBlanks : Read Unit :=
  modify fun s =>
    if s.spaced then
      let (p, rest) := skipFrom false s.place s.rest
      { s with place := p, rest := rest }
    else s

/-- Go past one character and what is skipped, and tell whether another follows. -/
def bumpSkip : Read Bool := do
  if ← bump then
    skipBlanks
    return !(← atEnd)
  else return false

/-- Go past a text if it stands here. -/
def bumpIf (text : List Char) : Read Bool := do
  let s ← get
  if text.isPrefixOf s.rest then
    set { s with rest := s.rest.drop text.length, place := text.foldl Place.after s.place }
    return true
  else return false

/-- The character after the one at hand; in a spaced pattern the one after blanks and the
sign of a comment. -/
def peekSkip : Read (Option Char) := do
  let s ← get
  let after := s.rest.tail
  if !s.spaced then return after.head?
  match after.dropWhile Text.isBlank with
  | [] => return after.head?
  | '#' :: comment => return ((comment.dropWhile Text.isBlank).head?).or after.head?
  | c :: _ => return some c

/-- The characters at hand that satisfy `p`, going past each and what is skipped after it. The
first argument bounds their number. -/
def takeSkip (p : Char → Bool) : Nat → Read (List Char)
  | 0 => return []
  | fuel + 1 => do
      match ← char? with
      | none => return []
      | some c =>
          if p c then
            let _ ← bumpSkip
            return c :: (← takeSkip p fuel)
          else return []

/-- A bound on how many characters are left. -/
def bound : Read Nat := do return (← get).rest.length + 1

/-! ## Escapes -/

/-- Whether `c` has a meaning of its own in patterns. -/
def isMeta (c : Char) : Bool :=
  ['\\', '.', '+', '*', '?', '(', ')', '|', '[', ']', '{', '}', '^', '$', '#', '&', '-',
    '~'].contains c

/-- Whether a backslash makes `c` stand for itself. -/
def isEscapable (c : Char) : Bool :=
  isMeta c || (c.toNat < 0x80 && !c.isAlphanum && c != '<' && c != '>')

/-- The character of a hexadecimal number. -/
def hexChar? (digits : List Char) : Option Char :=
  let n := digits.foldl (fun n c => n * 16 + (Text.hexValue? c).getD 0) 0
  if n < 0xD800 || (0xE000 ≤ n && n ≤ 0x10FFFF) then some (Char.ofNat n) else none

/-- The digits of an escape with a fixed number of them. -/
def hexDigits : Nat → Bool → Read (List Char)
  | 0, _ => return []
  | count + 1, first => do
      if !first && !(← bumpSkip) then fail .escapeAtEnd (← spanHere)
      let some c ← char? | fail .escapeAtEnd (← spanHere)
      if (Text.hexValue? c).isNone then fail .hexNoDigit (← spanChar)
      return c :: (← hexDigits count false)

/-- The digits of an escape between braces. The first argument bounds their number. -/
def hexBraced : Nat → Read (List Char)
  | 0 => return []
  | fuel + 1 => do
      if (← bumpSkip) && !(← at? '}') then
        let some c ← char? | return []
        if (Text.hexValue? c).isNone then fail .hexNoDigit (← spanChar)
        return c :: (← hexBraced fuel)
      else return []

/-- A character by its code point, from the letter after the backslash on. -/
def hexLiteral (start : Place) (digits : Nat) : Read Literal := do
  if !(← bumpSkip) then fail .escapeAtEnd (← spanHere)
  if ← at? '{' then
    let brace ← here
    let first := (← spanChar).stop
    let ds ← hexBraced (← bound)
    if ← atEnd then fail .escapeAtEnd (← spanFrom brace)
    let stop ← here
    let _ ← bumpSkip
    if ds.isEmpty then fail .hexEmpty (← spanFrom brace)
    match hexChar? ds with
    | none => fail .hexNoCharacter ⟨first, stop⟩
    | some c => return { span := ← spanFrom start, char := c }
  else
    let first ← here
    let ds ← hexDigits digits true
    let _ ← bumpSkip
    match hexChar? ds with
    | none => fail .hexNoCharacter (← spanFrom first)
    | some c => return { span := ← spanFrom start, char := c, byte := digits == 2 }

/-- The query of a property's name between braces. -/
def queryOf (name : List Char) : PropertyQuery :=
  let rec cut (mark : List Char) : List Char → Option (List Char × List Char)
    | [] => none
    | c :: rest =>
        if mark.isPrefixOf (c :: rest) then some ([], (c :: rest).drop mark.length)
        else (cut mark rest).map fun (a, b) => (c :: a, b)
  match (cut ['!', '='] name).or ((cut [':'] name).or (cut ['='] name)) with
  | some (property, value) => .valued property value
  | none => .named name

/-- The name of a property between braces. The first argument bounds its length. -/
def bracedName : Nat → Read (List Char)
  | 0 => return []
  | fuel + 1 => do
      if (← bumpSkip) && !(← at? '}') then
        let some c ← char? | return []
        return c :: (← bracedName fuel)
      else return []

/-- A class of a property, from the letter after the backslash on. -/
def propertyClass (start : Place) : Read Atom := do
  let negated ← at? 'P'
  if !(← bumpSkip) then fail .escapeAtEnd (← spanHere)
  if ← at? '{' then
    let name ← bracedName (← bound)
    if ← atEnd then fail .escapeAtEnd (← spanHere)
    let _ ← bump
    return .property (← spanFrom start) (queryOf name) negated
  else
    let some c ← char? | fail .escapeAtEnd (← spanHere)
    if c = '\\' then fail .unicodeClass (← spanChar)
    let _ ← bumpSkip
    return .property (← spanFrom start) (.named [c]) negated

/-- Whether `c` may stand in the name of a word boundary. -/
def isBoundaryChar (c : Char) : Bool := c.isAlpha || c == '-'

/-- The kind of a word boundary named between braces; nothing if the braces hold something else, in
which case they are left for a repetition. -/
def boundaryKind? (start : Place) : Read (Option Assertion) := do
  let before ← get
  let brace ← here
  if !(← bumpSkip) then fail .wordBoundaryAtEnd (← spanFrom start)
  let first ← here
  if !(((← char?).map isBoundaryChar).getD false) then
    set before
    return none
  let name ← takeSkip isBoundaryChar (← bound)
  if !(← at? '}') then fail .wordBoundaryUnclosed (← spanFrom brace)
  let stop ← here
  let _ ← bump
  match String.ofList name with
  | "start" => return some .wordStart
  | "end" => return some .wordEnd
  | "start-half" => return some .wordStartHalf
  | "end-half" => return some .wordEndHalf
  | _ => fail .wordBoundaryUnknown ⟨first, stop⟩

/-- The class that a letter after a backslash stands for. -/
def letterClass? : Char → Option (ClassKind × Bool)
  | 'd' => some (.digit, false)
  | 'D' => some (.digit, true)
  | 's' => some (.space, false)
  | 'S' => some (.space, true)
  | 'w' => some (.word, false)
  | 'W' => some (.word, true)
  | _ => none

/-- The character that a letter after a backslash stands for. -/
def letterChar? : Char → Option Char
  | 'a' => some (Char.ofNat 7)
  | 'f' => some (Char.ofNat 12)
  | 't' => some '\t'
  | 'n' => some '\n'
  | 'r' => some '\r'
  | 'v' => some (Char.ofNat 11)
  | _ => none

/-- The assertion that a character after a backslash stands for. -/
def letterAssertion? : Char → Option Assertion
  | 'A' => some .startText
  | 'z' => some .endText
  | 'B' => some .notWordBoundary
  | '<' => some .wordStart
  | '>' => some .wordEnd
  | _ => none

/-- A backslash and what belongs to it. -/
def escape : Read Atom := do
  let start ← here
  if !(← bump) then fail .escapeAtEnd (← spanFrom start)
  let some c ← char? | fail .escapeAtEnd (← spanFrom start)
  if Text.isDigit c then fail .backreference ⟨start, (← spanChar).stop⟩
  match c with
  | 'x' => return .literal (← hexLiteral start 2)
  | 'u' => return .literal (← hexLiteral start 4)
  | 'U' => return .literal (← hexLiteral start 8)
  | 'p' => propertyClass start
  | 'P' => propertyClass start
  | _ =>
      let _ ← bump
      let span ← spanFrom start
      if let some (kind, negated) := letterClass? c then return .letterClass span kind negated
      if isEscapable c then return .literal { span, char := c }
      if let some d := letterChar? c then return .literal { span, char := d }
      if let some kind := letterAssertion? c then return .assertion span kind
      if c = 'b' then
        if ← at? '{' then
          if let some kind ← boundaryKind? start then return .assertion (← spanFrom start) kind
        return .assertion span .wordBoundary
      fail .escapeUnknown span

/-- One atom outside brackets. -/
def atom : Read Atom := do
  let span ← spanChar
  match ← char? with
  | some '\\' => escape
  | some '.' => let _ ← bump; return .dot span
  | some '^' => let _ ← bump; return .assertion span .startLine
  | some '$' => let _ ← bump; return .assertion span .endLine
  | some c => let _ ← bump; return .literal { span, char := c }
  | none => fail .escapeAtEnd span

/-! ## Sets -/

/-- The members of the ASCII classes by name. -/
def asciiClass? : String → Option (List (Nat × Nat))
  | "alnum" => some [(0x30, 0x39), (0x41, 0x5A), (0x61, 0x7A)]
  | "alpha" => some [(0x41, 0x5A), (0x61, 0x7A)]
  | "ascii" => some [(0, 0x7F)]
  | "blank" => some [(9, 9), (0x20, 0x20)]
  | "cntrl" => some [(0, 0x1F), (0x7F, 0x7F)]
  | "digit" => some [(0x30, 0x39)]
  | "graph" => some [(0x21, 0x7E)]
  | "lower" => some [(0x61, 0x7A)]
  | "print" => some [(0x20, 0x7E)]
  | "punct" => some [(0x21, 0x2F), (0x3A, 0x40), (0x5B, 0x60), (0x7B, 0x7E)]
  | "space" => some [(9, 13), (0x20, 0x20)]
  | "upper" => some [(0x41, 0x5A)]
  | "word" => some [(0x30, 0x39), (0x41, 0x5A), (0x5F, 0x5F), (0x61, 0x7A)]
  | "xdigit" => some [(0x30, 0x39), (0x41, 0x46), (0x61, 0x66)]
  | _ => none

/-- An ASCII class such as `[:alpha:]`, if one stands here; otherwise nothing is read. -/
def asciiClass : Read (Option SetTree) := do
  let s ← get
  let (negated, name) := match s.rest with
    | '[' :: ':' :: '^' :: rest => (true, rest)
    | '[' :: ':' :: rest => (false, rest)
    | _ => (false, [])
  let word := name.takeWhile (· != ':')
  match asciiClass? (String.ofList word), name.drop word.length with
  | some members, ':' :: ']' :: rest =>
      let read := s.rest.take (s.rest.length - rest.length)
      let stop := read.foldl Place.after s.place
      set { s with rest := rest, place := stop }
      return some (.ascii ⟨s.place, stop⟩ members negated)
  | _, _ => return none

/-- An atom between brackets. -/
def setAtom : Read Atom := do
  match ← char? with
  | some '\\' => escape
  | some c =>
      let span ← spanChar
      let _ ← bump
      return .literal { span, char := c }
  | none => fail .classUnclosed (← spanHere)

/-- An atom as a member of a set. -/
def memberOf : Atom → Read SetTree
  | .literal l => return .literal l
  | .letterClass span kind negated => return .letterClass span kind negated
  | .property span query negated => return .property span query negated
  | .dot span => fail .classEscape span
  | .assertion span _ => fail .classEscape span

/-- An atom as the end of a range. -/
def endOf : Atom → Read Literal
  | .literal l => return l
  | a => fail .classBoundary a.span

/-- A character, class or range between brackets. The span is that of the opened set. -/
def setRange (opened : Span) : Read SetTree := do
  let first ← setAtom
  skipBlanks
  if ← atEnd then fail .classUnclosed opened
  let next ← peekSkip
  if !(← at? '-') || next == some ']' || next == some '-' then memberOf first
  else
    if !(← bumpSkip) then fail .classUnclosed opened
    let last ← setAtom
    let span : Span := ⟨first.span.start, last.span.stop⟩
    let a ← endOf first
    let b ← endOf last
    if b.char < a.char then fail .classOrder span
    return .range span a b

/-- Hyphens that stand first in a set. The first argument bounds their number. -/
def leadingHyphens (start : Place) : Nat → Read (List SetTree)
  | 0 => return []
  | fuel + 1 => do
      if ← at? '-' then
        let item := SetTree.literal { span := ← spanChar, char := '-' }
        if !(← bumpSkip) then fail .classUnclosed ⟨start, start⟩
        return item :: (← leadingHyphens start fuel)
      else return []

/-- The opening of a set: its span so far, whether it is negated, and its members so far. -/
def setOpening : Read (Span × Bool × List SetTree) := do
  let start ← here
  if !(← bumpSkip) then fail .classUnclosed (← spanFrom start)
  let negated ← at? '^'
  if negated then
    if !(← bumpSkip) then fail .classUnclosed (← spanFrom start)
  let mut items ← leadingHyphens start (← bound)
  if items.isEmpty && (← at? ']') then
    items := [.literal { span := ← spanChar, char := ']' }]
    if !(← bumpSkip) then fail .classUnclosed (← spanFrom start)
  return (← spanFrom start, negated, items)

/-- The members of a set, given last first, as one set. -/
def unionOf (place : Place) (items : List SetTree) : SetTree :=
  match items.reverse with
  | [] => .union ⟨place, place⟩ []
  | [item] => item
  | first :: rest =>
      .union ⟨first.span.start, ((rest.getLast?).getD first).span.stop⟩ (first :: rest)

/-- A set after the operations that wait on its left side. -/
def applied (pending : Option (SetOperation × SetTree)) (set : SetTree) : SetTree :=
  match pending with
  | none => set
  | some (op, left) => .operation ⟨left.span.start, set.span.stop⟩ op left set

/-- The operation that stands here, if one does. -/
def operation? : Read (Option SetOperation) := do
  if ← bumpIf ['&', '&'] then return some .intersection
  else if ← bumpIf ['-', '-'] then return some .difference
  else if ← bumpIf ['~', '~'] then return some .symmetricDifference
  else return none

mutual

/-- A set with its brackets. The first argument bounds the number of steps. -/
def bracketedSet : Nat → Read SetTree
  | 0 => do fail .classUnclosed (← spanHere)
  | fuel + 1 => do
      let (opened, negated, items) ← setOpening
      let body ← setBody opened items.reverse none fuel
      let _ ← bump
      return .bracketed (← spanFrom opened.start) negated body

/-- The rest of a set up to its closing bracket: members so far, last first, and the operation that
waits. -/
def setBody (opened : Span) (items : List SetTree) (pending : Option (SetOperation × SetTree)) :
    Nat → Read SetTree
  | 0 => fail .classUnclosed opened
  | fuel + 1 => do
      skipBlanks
      match ← char? with
      | none => fail .classUnclosed opened
      | some '[' =>
          match ← asciiClass with
          | some item => setBody opened (item :: items) pending fuel
          | none =>
              let inner ← bracketedSet fuel
              setBody opened (inner :: items) pending fuel
      | some ']' => return applied pending (unionOf (← here) items)
      | some _ =>
          let place ← here
          match ← operation? with
          | some op => setBody opened [] (some (op, applied pending (unionOf place items))) fuel
          | none =>
              let item ← setRange opened
              setBody opened (item :: items) pending fuel

end

/-! ## Repetitions -/

/-- The pattern that a repetition applies to: the last one so far, given last first. -/
def repeated : List Tree → Read (Tree × List Tree)
  | [] => do fail .repetitionEmpty (← spanHere)
  | .empty :: _ => do fail .repetitionEmpty (← spanHere)
  | .flags _ :: _ => do fail .repetitionEmpty (← spanHere)
  | t :: rest => return (t, rest)

/-- Where a pattern begins. -/
def startOf (default : Place) : Tree → Place
  | .empty => default
  | .flags _ => default
  | .atom a => a.span.start
  | .bracketed s _ _ => s.start
  | .repetition s _ _ _ _ => s.start
  | .capture s _ _ => s.start
  | .group s _ _ => s.start
  | .alternation s _ => s.start
  | .concat s _ => s.start

/-- A repetition without a count. -/
def simpleRepetition (least : Nat) (most : Option Nat) (items : List Tree) : Read (List Tree) := do
  let (body, rest) ← repeated items
  let start ← here
  let more ← bump
  let lazily := more && (← at? '?')
  if lazily then
    let _ ← bump
  return .repetition (← spanFrom (startOf start body)) least most (!lazily) body :: rest

/-- A decimal number, or why there is none. -/
def decimal : Read (Except Fault Nat) := do
  let n ← bound
  let rec blanks : Nat → Read Unit
    | 0 => return ()
    | fuel + 1 => do
        if ((← char?).map Text.isBlank).getD false then
          let _ ← bump
          blanks fuel
  blanks n
  let start ← here
  let digits ← takeSkip Text.isDigit n
  let span ← spanFrom start
  let _ ← takeSkip Text.isBlank n
  if digits.isEmpty then return .error { cause := .repetitionNoCount, span }
  let value := Text.digitsValue digits
  if value < Nat.pow 2 32 then return .ok value
  else return .error { cause := .decimalTooLarge, span }

/-- Go on with a result. -/
def unwrap {α : Type} : Except Fault α → Read α
  | .ok a => return a
  | .error e => throw e

/-- The bounds of a counted repetition, after its opening brace. -/
def counts (start : Place) : Read (Nat × Option Nat) := do
  let least ← decimal
  if ← atEnd then fail .repetitionUnclosed (← spanFrom start)
  if ← at? ',' then
    if !(← bumpSkip) then fail .repetitionUnclosed (← spanFrom start)
    if ← at? '}' then return (← unwrap least, none)
    let least ← unwrap least
    let most ← unwrap (← decimal)
    return (least, some most)
  else
    let n ← unwrap least
    return (n, some n)

/-- A repetition with a count. -/
def countedRepetition (items : List Tree) : Read (List Tree) := do
  let start ← here
  let (body, rest) ← repeated items
  if !(← bumpSkip) then fail .repetitionUnclosed (← spanFrom start)
  let (least, most) ← counts start
  if !(← at? '}') then fail .repetitionUnclosed (← spanFrom start)
  let more ← bumpSkip
  let lazily := more && (← at? '?')
  if lazily then
    let _ ← bump
  if most.any (· < least) then fail .repetitionOrder (← spanFrom start)
  return .repetition (← spanFrom (startOf start body)) least most (!lazily) body :: rest

/-! ## Groups -/

/-- The flag of a letter. -/
def flag? : Char → Option Flag
  | 'i' => some .caseInsensitive
  | 'm' => some .multiLine
  | 's' => some .dotAll
  | 'U' => some .swapGreed
  | 'u' => some .unicode
  | 'R' => some .carriageReturn
  | 'x' => some .spaced
  | _ => none

/-- What has been read of a list of flags. -/
structure FlagsRead where
  /-- The flags so far, last first, with where they stand. -/
  items : List (Flag × Bool × Span) := []
  /-- Where the sign for turning off stands. -/
  negation : Option Span := none
  /-- Whether that sign was read last. -/
  dangling : Bool := false

/-- The flags of a group. The first argument bounds the number of letters. -/
def flagsFrom (f : FlagsRead) : Nat → Read FlagList
  | 0 => do fail .flagAtEnd (← spanHere)
  | fuel + 1 => do
      let span ← spanChar
      match ← char? with
      | none => fail .flagAtEnd span
      | some c =>
          if c = ':' || c = ')' then
            match f.dangling, f.negation with
            | true, some s => fail .flagDangling s
            | _, _ => return f.items.reverse.map fun (flag, on, _) => (flag, on)
          else
            let next ←
              if c = '-' then
                match f.negation with
                | some earlier => throw { cause := .flagNegatedTwice, span, earlier := some earlier }
                | none => pure { f with negation := some span, dangling := true }
              else
                match flag? c with
                | none => fail .flagUnknown span
                | some flag =>
                    match f.items.find? fun e => e.1 == flag with
                    | some (_, _, earlier) =>
                        throw { cause := .flagDuplicate, span, earlier := some earlier }
                    | none =>
                        pure { f with
                          items := (flag, f.negation.isNone, span) :: f.items, dangling := false }
            if !(← bump) then fail .flagAtEnd (← spanHere)
            flagsFrom next fuel

/-- Whether `c` may stand in the name of a group. -/
def isNameChar (first : Bool) (c : Char) : Bool :=
  c == '_' || PropertyQuery.alphabetic.toRanges.contains c ||
    (!first && (c == '.' || c == '[' || c == ']' ||
      (PropertyQuery.categories ["Nd", "Nl", "No"]).toRanges.contains c))

/-- The characters of a group's name. The first argument bounds their number. -/
def groupNameChars (first : Bool) : Nat → Read (List Char)
  | 0 => return []
  | fuel + 1 => do
      match ← char? with
      | none => return []
      | some '>' => return []
      | some c =>
          if !isNameChar first c then fail .groupNameInvalid (← spanChar)
          let _ ← bump
          return c :: (← groupNameChars false fuel)

/-- Read the name of a group. -/
def groupName : Read Unit := do
  if ← atEnd then fail .groupNameAtEnd (← spanHere)
  let start ← here
  let name ← groupNameChars true (← bound)
  let span ← spanFrom start
  if ← atEnd then fail .groupNameAtEnd (← spanHere)
  let _ ← bump
  if name.isEmpty then fail .groupNameEmpty ⟨start, start⟩
  match (← get).names.find? fun e => e.1 == name with
  | some (_, earlier) => throw { cause := .groupNameDuplicate, span, earlier := some earlier }
  | none => modify fun s => { s with names := (name, span) :: s.names }

/-- How a group begins. -/
inductive Opening where
  /-- There is no group: flags are set from here on. -/
  | flags (flags : FlagList)
  | capture (number : Nat)
  | group (flags : FlagList)

/-- The opening of a group, from its parenthesis on. -/
def opening (span : Span) : Read Opening := do
  let _ ← bump
  skipBlanks
  for mark in ["?=", "?!", "?<=", "?<!"] do
    if ← bumpIf mark.toList then fail .lookAround (← spanFrom span.start)
  let inner ← spanHere
  if (← bumpIf ['?', 'P', '<']) || (← bumpIf ['?', '<']) then
    modify fun s => { s with captures := s.captures + 1 }
    let number := (← get).captures
    groupName
    return .capture number
  else if ← bumpIf ['?'] then
    if ← atEnd then fail .groupUnclosed span
    let flags ← flagsFrom {} (← bound)
    let setting ← at? ')'
    let _ ← bump
    if setting then
      if flags.isEmpty then fail .repetitionEmpty inner
      return .flags flags
    else return .group flags
  else
    modify fun s => { s with captures := s.captures + 1 }
    return .capture (← get).captures

/-! ## Patterns -/

/-- Patterns in a row, given last first, as one. -/
def concatOf (span : Span) (items : List Tree) : Tree :=
  match items.reverse with
  | [] => .empty
  | [item] => item
  | items => .concat span items

/-- What has been read of the inside of a group. -/
structure BodyRead where
  /-- Where the inside begins. -/
  start : Place
  /-- Where the branch at hand begins. -/
  branch : Place
  /-- The patterns of the branch at hand, last first. -/
  items : List Tree := []
  /-- The branches before it, last first. -/
  branches : List Tree := []

/-- The inside of a group at its end. -/
def BodyRead.finish (b : BodyRead) (stop : Place) : Tree :=
  let last := concatOf ⟨b.branch, stop⟩ b.items
  if b.branches.isEmpty then last else .alternation ⟨b.start, stop⟩ (last :: b.branches).reverse

/-- Turn skipping on or off as flags say. -/
def applySpaced (flags : FlagList) : Read Unit :=
  modify fun s => { s with spaced := (flags.state? .spaced).getD s.spaced }

mutual

/-- The inside of a group or the whole pattern, up to a closing parenthesis or the end. The last
argument bounds the number of steps. -/
def body (b : BodyRead) : Nat → Read Tree
  | 0 => return b.finish (← here)
  | fuel + 1 => do
      skipBlanks
      match ← char? with
      | none => return b.finish (← here)
      | some ')' => return b.finish (← here)
      | some '(' =>
          let item ← group fuel
          body { b with items := item :: b.items } fuel
      | some '|' =>
          let stop ← here
          let branch := concatOf ⟨b.branch, stop⟩ b.items
          let _ ← bump
          body { b with branch := ← here, items := [], branches := branch :: b.branches } fuel
      | some '[' =>
          match ← bracketedSet fuel with
          | .bracketed span negated inner =>
              body { b with items := .bracketed span negated inner :: b.items } fuel
          | other => body { b with items := .bracketed other.span false other :: b.items } fuel
      | some '?' => body { b with items := ← simpleRepetition 0 (some 1) b.items } fuel
      | some '*' => body { b with items := ← simpleRepetition 0 none b.items } fuel
      | some '+' => body { b with items := ← simpleRepetition 1 none b.items } fuel
      | some '{' => body { b with items := ← countedRepetition b.items } fuel
      | some _ =>
          let a ← atom
          body { b with items := .atom a :: b.items } fuel

/-- A group with its parentheses, or a setting of flags. -/
def group : Nat → Read Tree
  | 0 => do fail .groupUnclosed (← spanChar)
  | fuel + 1 => do
      let span ← spanChar
      let spaced := (← get).spaced
      match ← opening span with
      | .flags flags =>
          applySpaced flags
          return .flags flags
      | .capture number =>
          let inner ← body { start := ← here, branch := ← here } fuel
          close span spaced
          return .capture (← spanFrom span.start) number inner
      | .group flags =>
          applySpaced flags
          let inner ← body { start := ← here, branch := ← here } fuel
          close span spaced
          return .group (← spanFrom span.start) flags inner
where
  /-- Go past the closing parenthesis. -/
  close (span : Span) (spaced : Bool) : Read Unit := do
    if ← atEnd then fail .groupUnclosed span
    modify fun s => { s with spaced := spaced }
    let _ ← bump

end

/-- The whole pattern. -/
def whole : Read Tree := do
  let t ← body { start := ← here, branch := ← here } (4 * (← bound) + 8)
  if !(← atEnd) then fail .groupUnopened (← spanChar)
  return t

end Reading

/-- The tree of a pattern. -/
def Tree.read (pattern : String) : Except Fault Tree := do
  let (t, _) ← Reading.whole.run { rest := pattern.toList }
  t.checkNesting 0
  return t

end Conformance.Pattern
