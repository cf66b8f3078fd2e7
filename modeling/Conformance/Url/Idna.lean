import Conformance.Text.Lowercase
import Conformance.Text.Split

/-!
# Names of domains in ASCII

The name of a domain may have letters of any script. It has a form in ASCII beside that, in which labels
with other letters are encoded behind `xn--`. Which names there are, and what their forms are, is told by
tables that grow with the repertoire of letters. `Idna` leaves the tables open, and `LawfulIdna` says what
is promised of the forms whatever the tables are.
-/

namespace Conformance

/-- The forms that the names of domains have in ASCII. -/
class Idna where
  /-- The form of a name, unless no domain can have that name. -/
  toAscii? : List Char → Option (List Char)

namespace Idna

/-- Whether a label stands for one with other letters. -/
def isEncoded (label : List Char) : Bool := "xn--".toList.isPrefixOf (label.map Text.asciiLower)

/-- Whether a name has ASCII characters only and no encoded label. -/
def isPlain (name : List Char) : Bool :=
  (name.all fun c => c.toNat < 0x80) && !(Text.splitOn '.' name).any isEncoded

/-- Forms without tables: a name with characters that are not ASCII has none, and an encoded label is
taken for a good one as it stands. -/
instance ascii : Idna where
  toAscii? name :=
    if name.all fun c => c.toNat < 0x80 then some (name.map Text.asciiLower) else none

end Idna

/-- What the standards of names promise of their forms. -/
class LawfulIdna [Idna] : Prop where
  /-- Forms are in ASCII, and in lower case. -/
  ascii {name form : List Char} (h : Idna.toAscii? name = some form) :
    ∀ c ∈ form, c.toNat < 0x80 ∧ Text.asciiLower c = c
  /-- A form is a name that is its own form. -/
  again {name form : List Char} (h : Idna.toAscii? name = some form) :
    Idna.toAscii? form = some form
  /-- A name in ASCII without encoded labels is put in lower case, and nothing else. -/
  plain {name : List Char} (h : Idna.isPlain name = true) :
    Idna.toAscii? name = some (name.map Text.asciiLower)

end Conformance
