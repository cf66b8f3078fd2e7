/-!
# UTF-8

Texts as bytes. Reading bytes tells, in order, the characters and the parts that are none: a part is
as long as it could still have become a character.
-/

namespace Conformance.Text.Utf8

/-! ## Writing -/

/-- The bytes of a code point. -/
def encodeCode (n : Nat) : List UInt8 :=
  if n < 0x80 then [.ofNat n]
  else if n < 0x800 then [.ofNat (0xC0 + n / 0x40), .ofNat (0x80 + n % 0x40)]
  else if n < 0x10000 then
    [.ofNat (0xE0 + n / 0x1000), .ofNat (0x80 + n / 0x40 % 0x40), .ofNat (0x80 + n % 0x40)]
  else
    [.ofNat (0xF0 + n / 0x40000), .ofNat (0x80 + n / 0x1000 % 0x40),
      .ofNat (0x80 + n / 0x40 % 0x40), .ofNat (0x80 + n % 0x40)]

/-- The bytes of a character. -/
def encodeChar (c : Char) : List UInt8 := encodeCode c.toNat

/-- The bytes of a text. -/
def encode (cs : List Char) : List UInt8 := cs.flatMap encodeChar

/-! ## Reading -/

/-- A character that is read in part. -/
structure Pending where
  /-- The bits so far. -/
  bits : Nat
  /-- The number of bytes that are still to come. -/
  missing : Nat
  /-- The least value that the next byte may have. -/
  least : Nat
  /-- The greatest value that the next byte may have. -/
  greatest : Nat

/-- What a byte begins: a character of its own, one of several bytes, or none. -/
inductive Lead where
  | whole (char : Char)
  | part (pending : Pending)
  | invalid

/-- What a byte begins. -/
def lead (b : UInt8) : Lead :=
  let n := b.toNat
  if n < 0x80 then .whole (Char.ofNat n)
  else if n < 0xC2 then .invalid
  else if n < 0xE0 then .part ⟨n - 0xC0, 1, 0x80, 0xBF⟩
  else if n = 0xE0 then .part ⟨0, 2, 0xA0, 0xBF⟩
  else if n = 0xED then .part ⟨0xD, 2, 0x80, 0x9F⟩
  else if n < 0xF0 then .part ⟨n - 0xE0, 2, 0x80, 0xBF⟩
  else if n = 0xF0 then .part ⟨0, 3, 0x90, 0xBF⟩
  else if n < 0xF4 then .part ⟨n - 0xF0, 3, 0x80, 0xBF⟩
  else if n = 0xF4 then .part ⟨4, 3, 0x80, 0x8F⟩
  else .invalid

/-- The characters of bytes, given the character that is read in part; nothing stands for a part
that is no character. -/
def decodeFrom : Option Pending → List UInt8 → List (Option Char)
  | none, [] => []
  | some _, [] => [none]
  | none, b :: rest =>
      match lead b with
      | .whole c => some c :: decodeFrom none rest
      | .part p => decodeFrom (some p) rest
      | .invalid => none :: decodeFrom none rest
  | some p, b :: rest =>
      if p.least ≤ b.toNat && b.toNat ≤ p.greatest then
        let bits := p.bits * 0x40 + (b.toNat - 0x80)
        if p.missing ≤ 1 then some (Char.ofNat bits) :: decodeFrom none rest
        else decodeFrom (some ⟨bits, p.missing - 1, 0x80, 0xBF⟩) rest
      else
        none :: match lead b with
          | .whole c => some c :: decodeFrom none rest
          | .part p => decodeFrom (some p) rest
          | .invalid => none :: decodeFrom none rest

/-- The text of bytes, if they are one. -/
def decode? (bytes : List UInt8) : Option (List Char) := (decodeFrom none bytes).mapM id

/-- The replacement character. -/
def replacement : Char := Char.ofNat 0xFFFD

/-- The text of bytes, with the replacement character for each part that is none. -/
def decodeLossy (bytes : List UInt8) : List Char :=
  (decodeFrom none bytes).map fun c => c.getD replacement

end Conformance.Text.Utf8
