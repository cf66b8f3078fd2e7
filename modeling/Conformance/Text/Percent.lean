import Conformance.Text.Decimal
import Conformance.Text.Utf8

/-!
# Percent encoding

Characters that may not stand for themselves are written as the bytes of their UTF-8 form, each as a
percent sign and two hexadecimal digits.
-/

namespace Conformance.Text.Percent

/-- The capital hexadecimal digit of a number below sixteen. -/
def hexDigit (n : Nat) : Char := if n < 10 then Char.ofNat (0x30 + n) else Char.ofNat (0x37 + n)

/-- A byte as a percent sign and two digits. -/
def encodeByte (b : UInt8) : List Char := ['%', hexDigit (b.toNat / 16), hexDigit (b.toNat % 16)]

/-- Write a text, a character for which `plain` holds standing for itself. -/
def encode (plain : Char → Bool) (cs : List Char) : List Char :=
  cs.flatMap fun c => if plain c then [c] else (Utf8.encodeChar c).flatMap encodeByte

/-- The bytes of a text in which percent signs with two digits stand for bytes. -/
def decode : List Char → List UInt8
  | [] => []
  | ['%'] => [0x25]
  | ['%', a] => 0x25 :: Utf8.encodeChar a
  | '%' :: a :: b :: rest =>
      match hexValue? a, hexValue? b with
      | some h, some l => .ofNat (h * 16 + l) :: decode rest
      | _, _ => 0x25 :: decode (a :: b :: rest)
  | c :: rest => Utf8.encodeChar c ++ decode rest

end Conformance.Text.Percent
