import Conformance.Pattern.CategoryTable
import Conformance.Pattern.Charset
import Conformance.Pattern.PropertyTable
import Conformance.Pattern.ScriptTable

/-!
# Properties by name

The sets of characters that a class names: a general category, a script, or a property that a
character has or has not. Names are compared without regard to letter case, spaces, hyphens and
underscores, and may begin with `is`.
-/

namespace Conformance.Pattern

/-- Why a name stands for no set. -/
inductive PropertyFault where
  /-- There is no property of that name. -/
  | unknownProperty
  /-- The property has no value of that name. -/
  | unknownValue
  deriving DecidableEq, Repr

/-- A class by its name. -/
inductive PropertyQuery where
  /-- A property, category or script. -/
  | named (name : List Char)
  /-- A value of a property. -/
  | valued (property value : List Char)
  deriving DecidableEq, Repr

namespace PropertyQuery

/-! ## Names -/

/-- A name as it is compared. -/
def normalize (name : List Char) : List Char :=
  let (marked, rest) := match name with
    | a :: b :: rest =>
        if (a == 'i' || a == 'I') && (b == 's' || b == 'S') then (true, rest) else (false, name)
    | _ => (false, name)
  let letters := (rest.filter fun c => !(c == ' ' || c == '_' || c == '-') && c.toNat < 0x80).map
    fun c => if 'A' ≤ c && c ≤ 'Z' then Char.ofNat (c.toNat + 32) else c
  if marked && letters == ['c'] then ['i', 's', 'c'] else letters

/-- Whether a compared name is one of the given names. -/
def isOneOf (name : List Char) (names : List String) : Bool :=
  names.any fun n => normalize n.toList == name

/-! ## Sets -/

/-- The set of the first row of a table that carries a compared name. -/
def rowOf? (table : List (String × String × Text.Ranges)) (name : List Char) : Option Charset :=
  (table.find? fun (short, long, _) => isOneOf name [short, long]).map fun (_, _, r) =>
    .ofRanges r

/-- The union of the categories with the given short names. -/
def categories (names : List String) : Charset :=
  .unions (categoryTable.filterMap fun (short, _, r) =>
    if names.contains short then some (.ofRanges r) else none)

/-- The assigned code points. -/
def assigned : Charset := .unions (categoryTable.map fun (_, _, r) => .ofRanges r)

/-- The groups of general categories, by their names. -/
def categoryGroups : List (List String × List String) :=
  [(["L", "Letter"], ["Lu", "Ll", "Lt", "Lm", "Lo"]), (["LC", "Cased_Letter"], ["Lu", "Ll", "Lt"]),
    (["M", "Mark", "Combining_Mark"], ["Mn", "Mc", "Me"]), (["N", "Number"], ["Nd", "Nl", "No"]),
    (["P", "Punctuation", "punct"], ["Pc", "Pd", "Ps", "Pe", "Pi", "Pf", "Po"]),
    (["S", "Symbol"], ["Sm", "Sc", "Sk", "So"]), (["Z", "Separator"], ["Zs", "Zl", "Zp"]),
    (["digit"], ["Nd"]), (["cntrl"], ["Cc"])]

/-- The set of a general category. -/
def category? (name : List Char) : Option Charset :=
  if isOneOf name ["Any"] then some .all
  else if isOneOf name ["ASCII"] then some ⟨[(0, 0x7F)]⟩
  else if isOneOf name ["Assigned"] then some assigned
  else if isOneOf name ["Cn", "Unassigned"] then some assigned.complement
  else if name == ['c'] || isOneOf name ["Other"] then
    some (assigned.diff (categories ["Cc", "Cf", "Co"])).complement
  else if isOneOf name ["Cs", "Surrogate"] then some .empty
  else
    match categoryGroups.find? fun g => isOneOf name g.1 with
    | some g => some (categories g.2)
    | none => rowOf? categoryTable name

/-- The set of a script. -/
def script? (name : List Char) : Option Charset := rowOf? scriptTable name

/-- The alphabetic characters. -/
def alphabetic : Charset :=
  (categories ["Lu", "Ll", "Lt", "Lm", "Lo", "Nl"]).union (.ofRanges otherAlphabetic)

/-- The characters with which an identifier may begin. -/
def identifierStart : Charset :=
  ((categories ["Lu", "Ll", "Lt", "Lm", "Lo", "Nl"]).union (.ofRanges otherStart)).diff
    ⟨[(0x2E2F, 0x2E2F)]⟩

/-- The characters with which an identifier may go on. -/
def identifierContinue : Charset :=
  .unions [identifierStart, categories ["Mn", "Mc", "Nd", "Pc"], .ofRanges otherContinue]

/-- The blank characters. -/
def blank : Charset :=
  ⟨[(9, 13), (0x20, 0x20), (0x85, 0x85), (0xA0, 0xA0), (0x1680, 0x1680), (0x2000, 0x200A),
    (0x2028, 0x2029), (0x202F, 0x202F), (0x205F, 0x205F), (0x3000, 0x3000)]⟩

/-- The decimal digits. -/
def digit : Charset := categories ["Nd"]

/-- The characters that belong to words. -/
def word : Charset :=
  .unions [alphabetic, categories ["Mn", "Mc", "Me", "Nd", "Pc"], ⟨[(0x200C, 0x200D)]⟩]

/-- The set of a property that a character has or has not. -/
def binary? (name : List Char) : Option Charset :=
  if isOneOf name ["Alphabetic", "Alpha"] then some alphabetic
  else if isOneOf name ["Lowercase", "Lower"] then
    some ((categories ["Ll"]).union (.ofRanges otherLowercase))
  else if isOneOf name ["Uppercase", "Upper"] then
    some ((categories ["Lu"]).union (.ofRanges otherUppercase))
  else if isOneOf name ["White_Space", "space", "WSpace"] then some blank
  else if isOneOf name ["ASCII_Hex_Digit", "AHex"] then
    some ⟨[(0x30, 0x39), (0x41, 0x46), (0x61, 0x66)]⟩
  else if isOneOf name ["Hex_Digit", "Hex"] then some (.ofRanges hexDigits)
  else if isOneOf name ["Join_Control", "Join_C"] then some ⟨[(0x200C, 0x200D)]⟩
  else if isOneOf name ["Emoji"] then some (.ofRanges emoji)
  else if isOneOf name ["Ideographic", "Ideo"] then some (.ofRanges ideographs)
  else if isOneOf name ["Math"] then some ((categories ["Sm"]).union (.ofRanges otherMath))
  else if isOneOf name ["Dash"] then some (.ofRanges dashes)
  else if isOneOf name ["ID_Start", "IDS"] then some identifierStart
  else if isOneOf name ["ID_Continue", "IDC"] then some identifierContinue
  else if isOneOf name ["XID_Start", "XIDS"] then
    some (identifierStart.diff (.ofRanges unstableStart))
  else if isOneOf name ["XID_Continue", "XIDC"] then
    some (identifierContinue.diff (.ofRanges unstableContinue))
  else if isOneOf name ["Cased"] then some (.ofRanges Text.casedRanges)
  else if isOneOf name ["Case_Ignorable", "CI"] then some (.ofRanges Text.caseIgnorableRanges)
  else none

/-- The set that a name alone stands for. -/
def namedSet? (name : List Char) : Option Charset :=
  (binary? name).or ((category? name).or (script? name))

/-- The set that a query stands for. -/
def resolve : PropertyQuery → Except PropertyFault Charset
  | .named name =>
      match namedSet? (normalize name) with
      | some s => .ok s
      | none => .error .unknownProperty
  | .valued property value =>
      let property := normalize property
      let found :=
        if isOneOf property ["gc", "General_Category"] then some (category? (normalize value))
        else if isOneOf property ["sc", "Script", "scx", "Script_Extensions"] then
          some (script? (normalize value))
        else none
      match found with
      | none => .error .unknownProperty
      | some none => .error .unknownValue
      | some (some s) => .ok s

end PropertyQuery

end Conformance.Pattern
