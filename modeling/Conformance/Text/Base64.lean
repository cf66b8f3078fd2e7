import Conformance.Text.Utf8

/-!
# Base64

Bytes as characters of six bits each. Of the two alphabets, one is for standard text, which is filled
up with equals signs to a multiple of four characters, and one for URLs, where nothing is filled up.
-/

namespace Conformance.Text.Base64

/-- The two alphabets. -/
inductive Alphabet where
  /-- The last two characters are `+` and `/`. -/
  | standard
  /-- The last two characters are `-` and `_`. -/
  | url
  deriving DecidableEq, Repr

/-- The character of a number below 64. -/
def Alphabet.char (a : Alphabet) (n : Nat) : Char :=
  if n < 26 then Char.ofNat (0x41 + n)
  else if n < 52 then Char.ofNat (0x61 + (n - 26))
  else if n < 62 then Char.ofNat (0x30 + (n - 52))
  else match a with
    | .standard => if n = 62 then '+' else '/'
    | .url => if n = 62 then '-' else '_'

/-- The number of a character. -/
def Alphabet.value? (a : Alphabet) (c : Char) : Option Nat :=
  let n := c.toNat
  if 0x41 ≤ n && n ≤ 0x5A then some (n - 0x41)
  else if 0x61 ≤ n && n ≤ 0x7A then some (n - 0x61 + 26)
  else if 0x30 ≤ n && n ≤ 0x39 then some (n - 0x30 + 52)
  else if c == a.char 62 then some 62
  else if c == a.char 63 then some 63
  else none

/-- Bytes as characters, without filling up. -/
def encode (a : Alphabet) : List UInt8 → List Char
  | [] => []
  | [x] => [a.char (x.toNat / 4), a.char (x.toNat % 4 * 16)]
  | [x, y] =>
      [a.char (x.toNat / 4), a.char (x.toNat % 4 * 16 + y.toNat / 16),
        a.char (y.toNat % 16 * 4)]
  | x :: y :: z :: rest =>
      a.char (x.toNat / 4) :: a.char (x.toNat % 4 * 16 + y.toNat / 16) ::
        a.char (y.toNat % 16 * 4 + z.toNat / 64) :: a.char (z.toNat % 64) :: encode a rest

/-- The bytes of numbers below 64; what does not fill a byte must be zero. -/
def join? : List Nat → Option (List UInt8)
  | [] => some []
  | [_] => none
  | [p, q] => if q % 16 = 0 then some [.ofNat (p * 4 + q / 16)] else none
  | [p, q, r] =>
      if r % 4 = 0 then some [.ofNat (p * 4 + q / 16), .ofNat (q % 16 * 16 + r / 4)] else none
  | p :: q :: r :: s :: rest =>
      match join? rest with
      | none => none
      | some bytes =>
          some (.ofNat (p * 4 + q / 16) :: .ofNat (q % 16 * 16 + r / 4) ::
            .ofNat (r % 4 * 64 + s) :: bytes)

/-- The numbers of characters. -/
def values? (a : Alphabet) : List Char → Option (List Nat)
  | [] => some []
  | c :: rest =>
      match a.value? c, values? a rest with
      | some n, some others => some (n :: others)
      | _, _ => none

/-- The bytes of characters that are not filled up. -/
def decode? (a : Alphabet) (cs : List Char) : Option (List UInt8) :=
  match values? a cs with
  | none => none
  | some ns => join? ns

/-- The bytes of characters that are filled up to a multiple of four. -/
def decodePadded? (a : Alphabet) (cs : List Char) : Option (List UInt8) :=
  if cs.length % 4 ≠ 0 then none
  else
    match cs.reverse with
    | '=' :: '=' :: rest => decode? a rest.reverse
    | '=' :: rest => decode? a rest.reverse
    | _ => decode? a cs

/-- A text in the alphabet for URLs. -/
def ofText (s : String) : String := String.ofList (encode .url (Utf8.encode s.toList))

end Conformance.Text.Base64
