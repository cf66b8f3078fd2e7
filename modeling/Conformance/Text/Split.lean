/-!
# Cutting texts

Cutting a text at a character, everywhere or at its first occurrence, and finding a text in another.
-/

namespace Conformance.Text

/-- Cut at every occurrence of a character; there is always at least one part. -/
def splitOn (sep : Char) : List Char → List (List Char)
  | [] => [[]]
  | c :: rest =>
      if c = sep then [] :: splitOn sep rest
      else
        match splitOn sep rest with
        | first :: others => (c :: first) :: others
        | [] => [[c]]

/-- Cut at the first occurrence of a character, if there is one. -/
def splitOnce (sep : Char) : List Char → Option (List Char × List Char)
  | [] => none
  | c :: rest =>
      if c = sep then some ([], rest)
      else
        match splitOnce sep rest with
        | none => none
        | some (before, after) => some (c :: before, after)

/-- Whether `part` occurs in a text. -/
def occursIn (part : List Char) : List Char → Bool
  | [] => part.isEmpty
  | c :: rest => part.isPrefixOf (c :: rest) || occursIn part rest

/-- Whether `part` occurs in `whole`. -/
def contains (whole part : String) : Bool := occursIn part.toList whole.toList

/-- Parts put together with a text between any two. -/
def join (sep : String) (parts : List String) : String := sep.intercalate parts

end Conformance.Text
