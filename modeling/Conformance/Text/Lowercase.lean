import Conformance.Text.CaseTable

/-!
# Lower case

Full lower-casing of a text. Every character has its own lower-case form, the same wherever it
stands, but for the capital sigma: it becomes the final sigma when a letter comes before it in its
word and none after it.
-/

namespace Conformance.Text

/-- The lower-case form of a code point by the rows of the table. -/
def lowercaseCode (n : Nat) : Nat :=
  match lowercaseRows.find? fun (a, b, step, _) => a ≤ n && n ≤ b && (n - a) % step == 0 with
  | none => n
  | some (_, _, _, d) => ((n : Int) + d).toNat

/-- The lower-case form of a character other than the capital sigma. -/
def lowercaseChar (c : Char) : List Char :=
  if c.toNat < 0x80 then [if 'A' ≤ c && c ≤ 'Z' then Char.ofNat (c.toNat + 32) else c]
  else if c.toNat = 0x130 then ['i', Char.ofNat 0x307]
  else [Char.ofNat (lowercaseCode c.toNat)]

/-- Whether the first character that is not passed over is a cased letter. -/
def startsCased (cs : List Char) : Bool :=
  match cs.dropWhile caseIgnorableRanges.contains with
  | [] => false
  | c :: _ => casedRanges.contains c

/-- Lower-case `cs`, where `before` holds the characters before it, nearest first. -/
def lowercaseFrom (before : List Char) : List Char → List Char
  | [] => []
  | c :: rest =>
      let lowered :=
        if c.toNat = 0x3A3 then
          [if startsCased before && !startsCased rest then Char.ofNat 0x3C2 else Char.ofNat 0x3C3]
        else lowercaseChar c
      lowered ++ lowercaseFrom (c :: before) rest

/-- The lower-case form of a text. -/
def lowercase (s : String) : String := String.ofList (lowercaseFrom [] s.toList)

/-- The lower-case form of an ASCII capital; other characters stay. -/
def asciiLower (c : Char) : Char := if 'A' ≤ c && c ≤ 'Z' then Char.ofNat (c.toNat + 32) else c

/-- The capital of an ASCII lower-case letter; other characters stay. -/
def asciiUpper (c : Char) : Char := if 'a' ≤ c && c ≤ 'z' then Char.ofNat (c.toNat - 32) else c

/-- A text with its ASCII capitals in lower case. -/
def asciiLowercase (s : String) : String := String.ofList (s.toList.map asciiLower)

/-- A text with its ASCII letters in upper case. -/
def asciiUppercase (s : String) : String := String.ofList (s.toList.map asciiUpper)

/-- Whether two texts are equal but for the case of ASCII letters. -/
def equalIgnoringCase (s t : String) : Bool := asciiLowercase s == asciiLowercase t

end Conformance.Text
