import Conformance.Text.Decimal

/-!
# Quoted TOML texts

Texts between quotation marks or apostrophes, on one line or, between three of them, on several.
Between quotation marks a backslash escapes: a character, a code point, or in a text of several
lines the end of the line with all blanks that follow.
-/

namespace Conformance.Toml

/-- Whether `c` is a blank within a line. -/
def isBlank (c : Char) : Bool := c == ' ' || c == '\t'

/-- Whether `c` may stand in a comment, and in texts as itself. -/
def isPlain (c : Char) : Bool := c == '\t' || (0x20 ≤ c.toNat && c.toNat ≠ 0x7F)

/-- What follows the end of a line. -/
def afterNewline? : List Char → Option (List Char)
  | '\n' :: rest => some rest
  | '\r' :: '\n' :: rest => some rest
  | _ => none

/-- How a text is quoted. -/
structure Quotation where
  /-- What stands before and after the text. -/
  mark : Char
  /-- Whether a backslash escapes. -/
  escapes : Bool
  /-- Whether the text may go over several lines. -/
  multiline : Bool

/-- The number that hexadecimal digits stand for. -/
def hexNumber? (digits : List Char) : Option Nat :=
  digits.foldl (fun n c => do return (← n) * 16 + (← Text.hexValue? c)) (some 0)

/-- The character of hexadecimal digits. -/
def hexChar? (digits : List Char) : Option Char := do
  let n ← hexNumber? digits
  if n.isValidChar then return Char.ofNat n else none

/-- The character of an escape whose backslash has been read, and what follows it. -/
def unescape? : List Char → Option (Char × List Char)
  | 'b' :: rest => some ('\x08', rest)
  | 't' :: rest => some ('\t', rest)
  | 'n' :: rest => some ('\n', rest)
  | 'f' :: rest => some ('\x0c', rest)
  | 'r' :: rest => some ('\r', rest)
  | '"' :: rest => some ('"', rest)
  | '\\' :: rest => some ('\\', rest)
  | 'u' :: rest =>
      if rest.length < 4 then none else (hexChar? (rest.take 4)).map fun c => (c, rest.drop 4)
  | 'U' :: rest =>
      if rest.length < 8 then none else (hexChar? (rest.take 8)).map fun c => (c, rest.drop 8)
  | _ => none

/-- What follows the blanks and line ends at the front of a text. The first argument bounds the
number of characters. -/
def skipLines : Nat → List Char → List Char
  | 0, cs => cs
  | fuel + 1, cs =>
      let cs := cs.dropWhile isBlank
      match afterNewline? cs with
      | some rest => skipLines fuel rest
      | none => cs

/-- What follows an escaped end of a line whose backslash has been read. -/
def afterLineEscape? (cs : List Char) : Option (List Char) :=
  (afterNewline? (cs.dropWhile isBlank)).map fun rest => skipLines (rest.length + 1) rest

/-- The rest of a quoted text, and what follows its closing mark. The first argument bounds the
number of characters. -/
def quotedRest (q : Quotation) : Nat → List Char → Option (List Char × List Char)
  | 0, _ => none
  | _ + 1, [] => none
  | fuel + 1, c :: rest =>
      if c = q.mark then
        if q.multiline then
          let marks := ((c :: rest).takeWhile (· == q.mark)).length
          if marks < 3 then
            (quotedRest q fuel ((c :: rest).drop marks)).map fun (text, after) =>
              (List.replicate marks c ++ text, after)
          else some (List.replicate (min marks 5 - 3) c, (c :: rest).drop (min marks 5))
        else some ([], rest)
      else if c = '\\' ∧ q.escapes then
        match if q.multiline then afterLineEscape? rest else none with
        | some rest => quotedRest q fuel rest
        | none =>
            match unescape? rest with
            | none => none
            | some (c, rest) =>
                (quotedRest q fuel rest).map fun (text, after) => (c :: text, after)
      else if isPlain c then (quotedRest q fuel rest).map fun (text, after) => (c :: text, after)
      else if q.multiline then
        match afterNewline? (c :: rest) with
        | none => none
        | some rest => (quotedRest q fuel rest).map fun (text, after) => ('\n' :: text, after)
      else none

/-- A text whose opening marks have been read, and what follows it. -/
def quotedText? (q : Quotation) (cs : List Char) : Option (String × List Char) :=
  let cs := if q.multiline then (afterNewline? cs).getD cs else cs
  (quotedRest q (cs.length + 1) cs).map fun (text, after) => (String.ofList text, after)

/-- A quoted text on one line, and what follows it. -/
def lineText? : List Char → Option (String × List Char)
  | '"' :: rest => quotedText? ⟨'"', true, false⟩ rest
  | '\'' :: rest => quotedText? ⟨'\'', false, false⟩ rest
  | _ => none

/-- A quoted text, and what follows it. -/
def anyText? : List Char → Option (String × List Char)
  | '"' :: '"' :: '"' :: rest => quotedText? ⟨'"', true, true⟩ rest
  | '\'' :: '\'' :: '\'' :: rest => quotedText? ⟨'\'', false, true⟩ rest
  | cs => lineText? cs

end Conformance.Toml
