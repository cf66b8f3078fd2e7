import Conformance.Toml.Quote
import Conformance.Toml.Scalar

/-!
# Reading TOML

A document is a list of lines: blank ones, comments, headers, and keys with their values, which
define the table of the last header. Values nest to a limit.
-/

namespace Conformance.Toml

/-- How deeply values nest, and how many parts a key has, at most. -/
def nestingLimit : Nat := 79

/-! ## Blanks -/

/-- The text from its first character that is no blank. -/
def skipBlanks (cs : List Char) : List Char := cs.dropWhile isBlank

/-- What follows a comment, if there is one. -/
def skipComment : List Char → List Char
  | '#' :: rest => rest.dropWhile isPlain
  | cs => cs

/-- What follows the end of a line, which may be that of the text. -/
def afterLineEnd? : List Char → Option (List Char)
  | [] => some []
  | cs => afterNewline? cs

/-- What follows the rest of a line that may hold a comment only. -/
def afterLine? (cs : List Char) : Option (List Char) := afterLineEnd? (skipComment (skipBlanks cs))

/-- The text from its first character that belongs to no blank, comment or line end. The first
argument bounds the number of lines. -/
def skipLayout : Nat → List Char → List Char
  | 0, cs => cs
  | fuel + 1, cs =>
      let cs := skipBlanks cs
      match afterNewline? (skipComment cs) with
      | some rest => skipLayout fuel rest
      | none => cs

/-! ## Keys -/

/-- Whether `c` may stand in a key without quotes. -/
def isKeyChar (c : Char) : Bool :=
  ('a' ≤ c && c ≤ 'z') || ('A' ≤ c && c ≤ 'Z') || ('0' ≤ c && c ≤ '9') || c == '_' || c == '-'

/-- One part of a key. -/
def simpleKey (cs : List Char) : Option (String × List Char) :=
  match lineText? cs with
  | some found => some found
  | none =>
      let name := cs.takeWhile isKeyChar
      if name.isEmpty then none else some (String.ofList name, cs.dropWhile isKeyChar)

/-- The parts of a key with dots between them, and what follows it and its blanks. The first
argument bounds the number of parts. -/
def keyPath : Nat → List Char → Option (List String × List Char)
  | 0, _ => none
  | fuel + 1, cs => do
      let (part, rest) ← simpleKey (skipBlanks cs)
      match skipBlanks rest with
      | '.' :: rest =>
          let (parts, rest) ← keyPath fuel rest
          return (part :: parts, rest)
      | rest => return ([part], rest)

/-! ## Values -/

mutual

/-- A value, and what follows it. The first argument bounds the number of steps, the second is how
many arrays and tables may still be entered. -/
def value : Nat → Nat → List Char → Option (Toml × List Char)
  | 0, _, _ => none
  | fuel + 1, depth, cs =>
      match cs with
      | [] => none
      | '"' :: _ => (anyText? cs).map fun (s, rest) => (.string s, rest)
      | '\'' :: _ => (anyText? cs).map fun (s, rest) => (.string s, rest)
      | '[' :: rest =>
          match depth with
          | 0 => none
          | depth + 1 => (arrayItems fuel depth rest).map fun (vs, rest) => (.array vs, rest)
      | '{' :: rest =>
          match depth with
          | 0 => none
          | depth + 1 =>
              match skipBlanks rest with
              | '}' :: rest => some (.table .literal [], rest)
              | rest => (tableMembers fuel depth [] rest).map fun (ms, rest) =>
                  (.table .literal ms, rest)
      | 't' :: 'r' :: 'u' :: 'e' :: rest => some (.boolean true, rest)
      | 'f' :: 'a' :: 'l' :: 's' :: 'e' :: rest => some (.boolean false, rest)
      | cs => numeral cs

/-- The items of an array from one of them or its end on, and what follows the closing bracket. -/
def arrayItems : Nat → Nat → List Char → Option (List Toml × List Char)
  | 0, _, _ => none
  | fuel + 1, depth, cs =>
      match skipLayout cs.length cs with
      | ']' :: rest => some ([], rest)
      | cs => do
          let (v, rest) ← value fuel depth cs
          match skipLayout rest.length rest with
          | ']' :: rest => return ([v], rest)
          | ',' :: rest =>
              let (vs, rest) ← arrayItems fuel depth rest
              return (v :: vs, rest)
          | _ => none

/-- The members of a table from one of them on, in addition to those before it, and what follows
the closing brace. -/
def tableMembers : Nat → Nat → Members → List Char → Option (Members × List Char)
  | 0, _, _, _ => none
  | fuel + 1, depth, ms, cs => do
      let (path, rest) ← keyPath nestingLimit cs
      let (v, rest) ← value fuel depth (skipBlanks (← expect '=' rest))
      let ms ← assign path v .literal ms
      match skipBlanks rest with
      | '}' :: rest => return (ms, rest)
      | ',' :: rest => tableMembers fuel depth ms rest
      | _ => none

end

/-! ## Lines -/

/-- What a line says. -/
inductive Line where
  | header (isItem : Bool) (path : List String)
  | entry (path : List String) (value : Toml)

/-- What a line that is neither blank nor a comment says, and what follows the line. -/
def line : Scan Line
  | '[' :: '[' :: rest => do
      let (path, rest) ← keyPath nestingLimit rest
      let rest ← expect ']' (← expect ']' rest)
      return (.header true path, ← afterLine? rest)
  | '[' :: rest => do
      let (path, rest) ← keyPath nestingLimit rest
      return (.header false path, ← afterLine? (← expect ']' rest))
  | cs => do
      let (path, rest) ← keyPath nestingLimit cs
      let rest := skipBlanks (← expect '=' rest)
      let (v, rest) ← value (2 * rest.length + 2) nestingLimit rest
      return (.entry path v, ← afterLine? rest)

/-- The lines of a text. The first argument bounds the number of lines. -/
def lines : Nat → List Char → Option (List Line)
  | 0, _ => none
  | fuel + 1, cs =>
      match skipBlanks cs with
      | [] => some []
      | cs =>
          match afterNewline? cs with
          | some rest => lines fuel rest
          | none =>
              match cs with
              | '#' :: _ => do lines fuel (← afterLine? cs)
              | cs => do
                  let (l, rest) ← line cs
                  return l :: (← lines fuel rest)

/-- Take in a line: the path of the last header, and the document. -/
def Line.apply : Line → List String × Members → Option (List String × Members)
  | .header isItem path, (_, ms) => (Toml.header isItem path ms).map fun ms => (path, ms)
  | .entry path v, (current, ms) =>
      (within false (assign path v) current .header ms).map fun ms => (current, ms)

/-- The document that lines make. -/
def ofLines (ls : List Line) : Option Members :=
  (ls.foldlM (fun state (l : Line) => l.apply state) (([], []) : List String × Members)).map (·.2)

/-- The mark that may stand at the front of a text. -/
def byteOrderMark : Char := Char.ofNat 0xFEFF

/-- The document of a text. -/
def parse? (text : String) : Option Toml := do
  let cs := match text.toList with
    | c :: rest => if c = byteOrderMark then rest else c :: rest
    | [] => []
  return .table .header (← ofLines (← lines (cs.length + 1) cs))

end Conformance.Toml
