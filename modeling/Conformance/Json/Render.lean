import Conformance.Binary64.Shortest
import Conformance.Json
import Conformance.Text.Decimal

/-!
# JSON text

The compact text of a value: no blanks, members in the order of the object's list, and in strings
only quotation marks, backslashes and the characters below `U+0020` escaped.
-/

namespace Conformance.Json

/-- A character as it stands in a string literal. -/
def escapeChar (c : Char) : List Char :=
  match c with
  | '"' => ['\\', '"']
  | '\\' => ['\\', '\\']
  | '\n' => ['\\', 'n']
  | '\r' => ['\\', 'r']
  | '\t' => ['\\', 't']
  | c =>
      if c.toNat = 8 then ['\\', 'b']
      else if c.toNat = 12 then ['\\', 'f']
      else if c.toNat < 16 then '\\' :: 'u' :: '0' :: '0' :: '0' :: Text.hexDigits c.toNat
      else if c.toNat < 32 then '\\' :: 'u' :: '0' :: '0' :: Text.hexDigits c.toNat
      else [c]

/-- The string literal of a text. -/
def quoteChars (cs : List Char) : List Char := '"' :: (cs.flatMap escapeChar ++ ['"'])

/-- The text of a whole number. -/
def intChars : Int → List Char
  | .ofNat n => Text.decimalDigits n
  | .negSucc n => '-' :: Text.decimalDigits (n + 1)

/-- The text of a number. -/
def Number.chars : Number → List Char
  | .int i => intChars i
  | .float x => x.render.toList

mutual

/-- The characters of a value. -/
def chars : Json → List Char
  | .null => ['n', 'u', 'l', 'l']
  | .bool true => ['t', 'r', 'u', 'e']
  | .bool false => ['f', 'a', 'l', 's', 'e']
  | .number n => n.chars
  | .string s => quoteChars s.toList
  | .array items => '[' :: itemChars items
  | .object members => '{' :: memberChars members

/-- The items of an array with their commas, and the closing bracket. -/
def itemChars : List Json → List Char
  | [] => [']']
  | [v] => v.chars ++ [']']
  | v :: rest => v.chars ++ ',' :: itemChars rest

/-- The members of an object with their commas, and the closing brace. -/
def memberChars : List (String × Json) → List Char
  | [] => ['}']
  | [(k, v)] => quoteChars k.toList ++ ':' :: (v.chars ++ ['}'])
  | (k, v) :: rest => quoteChars k.toList ++ ':' :: (v.chars ++ ',' :: memberChars rest)

end

/-- The text of a value. -/
def render (v : Json) : String := String.ofList v.chars

/-- A text as match rules compare values: a string stands for itself, any other value for its JSON
text. -/
def asText : Json → String
  | .string s => s
  | v => v.render

end Conformance.Json
