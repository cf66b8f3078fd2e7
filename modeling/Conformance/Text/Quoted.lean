import Conformance.Text.Decimal
import Conformance.Text.Unprintable

/-!
# Quoted text

A text between quotation marks, as messages and logs show it: quotation marks, backslashes and the
usual controls are escaped with a backslash, and a character without a glyph of its own is shown by
its code point. Lists, options and maps of texts are shown with their brackets.
-/

namespace Conformance.Text

/-- A character within a quoted text. -/
def quotedChar (c : Char) : List Char :=
  match c with
  | '"' => ['\\', '"']
  | '\\' => ['\\', '\\']
  | '\n' => ['\\', 'n']
  | '\r' => ['\\', 'r']
  | '\t' => ['\\', 't']
  | c =>
      if c.toNat = 0 then ['\\', '0']
      else if isUnprintable c then '\\' :: 'u' :: '{' :: (hexDigits c.toNat ++ ['}'])
      else [c]

/-- A text between quotation marks. -/
def quoted (s : String) : String := String.ofList ('"' :: (s.toList.flatMap quotedChar ++ ['"']))

/-- A list of texts, each quoted, in brackets. -/
def quotedList (items : List String) : String :=
  "[" ++ ", ".intercalate (items.map quoted) ++ "]"

/-- A map of texts, keys and values quoted, in braces. -/
def quotedEntries (entries : List (String × String)) : String :=
  "\x7b" ++ ", ".intercalate (entries.map fun e => quoted e.1 ++ ": " ++ quoted e.2) ++ "\x7d"

end Conformance.Text
