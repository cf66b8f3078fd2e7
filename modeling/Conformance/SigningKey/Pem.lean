import Conformance.SigningKey
import Conformance.SigningKey.Der
import Conformance.Text.Base64
import Conformance.Text.Blank
import Conformance.Text.Split

/-!
# Keys in armour

Reading a key from text: the first block between a line that begins it and a line that ends it, in
Base64. A block is key material when its label and its content are those of an RSA key; whether that
key can sign is found out from its numbers.
-/

namespace Conformance

/-- A block of armoured bytes. -/
structure Armour where
  /-- The label of the block. -/
  label : String
  /-- The bytes. -/
  content : List UInt8

/-- Why a text holds no key. -/
inductive KeyError where
  /-- There is no block that is key material. -/
  | invalidFormat
  /-- The block holds no key bytes. -/
  | noKeyBytes
  deriving DecidableEq, Repr

/-- The message of a text that holds no key. -/
def KeyError.message : KeyError → String
  | .invalidFormat => "claims generation failed: invalid signing key: InvalidKeyFormat"
  | .noKeyBytes => "claims generation failed: invalid signing key: InvalidEcdsaKey"

namespace Armour

/-- The text before the first occurrence of a mark, and what follows the mark. -/
def cut (mark : List Char) : List Char → Option (List Char × List Char)
  | [] => none
  | c :: rest =>
      if mark.isPrefixOf (c :: rest) then some ([], (c :: rest).drop mark.length)
      else (cut mark rest).map fun (a, b) => (c :: a, b)

/-- The part of a block that follows its headers, which end with an empty line. -/
def afterHeaders? (body : List Char) : Option (List Char) :=
  match (cut ['\n', '\n'] body).or (cut ['\r', '\n', '\r', '\n'] body) with
  | none => some body
  | some (headers, data) =>
      let lines := (Text.splitOn '\n' headers).filter fun l => !(Text.trimBlanks l).isEmpty
      if lines.all (·.contains ':') then some data else none

/-- The bytes of the lines of a block. -/
def bytes? (data : List Char) : Option (List UInt8) :=
  Text.Base64.decodePadded? .standard (data.filter fun c => !Text.isBlank c)

/-- The first block of a text. -/
def first? (text : String) : Option Armour := do
  let (_, rest) ← cut "-----BEGIN ".toList text.toList
  let (label, rest) ← cut "-----".toList rest
  let rest := rest.dropWhile fun c => c == ' ' || c == '\t' || c == '\n' || c == '\r'
  let (body, rest) ← cut "-----END ".toList rest
  let (closing, _) ← cut "-----".toList rest
  if label.isEmpty || label != closing then none
  let data ← afterHeaders? body
  return { label := String.ofList label, content := ← bytes? data }

end Armour

namespace SigningKey

/-- The object identifiers that tell kinds of keys apart, of which the first is that of RSA. -/
def kinds : List (List UInt8) :=
  [[0x2A, 0x86, 0x48, 0x86, 0xF7, 0x0D, 0x01, 0x01, 0x01],
    [0x2A, 0x86, 0x48, 0xCE, 0x3D, 0x02, 0x01], [0x2B, 0x65, 0x70]]

/-- The bytes of the RSA key in a block. -/
def keyBytes (a : Armour) : Except KeyError (List UInt8) :=
  match Der.parse? a.content with
  | none => .error .invalidFormat
  | some values =>
      match a.label with
      | "RSA PRIVATE KEY" => .ok a.content
      | "RSA PUBLIC KEY" => .ok a.content
      | label =>
          if ["PRIVATE KEY", "PUBLIC KEY", "CERTIFICATE"].contains label &&
              Der.findIdIn? kinds.contains values == kinds.head? then
            match Der.firstStringIn? values with
            | some bytes => .ok bytes
            | none => .error .noKeyBytes
          else .error .invalidFormat

/-- The number that bytes stand for, if it is written as a number not below zero is. -/
def natural? (bytes : List UInt8) : Option Nat :=
  let value := bytes.foldl (fun n b => n * 256 + b.toNat) 0
  match bytes with
  | [] => none
  | [b] => if b.toNat < 0x80 then some value else none
  | a :: b :: _ =>
      if 0x80 ≤ a.toNat then none
      else if a.toNat = 0 && b.toNat < 0x80 then none
      else some value

/-- The number of a value. -/
def naturalOf? : Der → Option Nat
  | .integer bytes => natural? bytes
  | _ => none

/-- The least number of bits, rounded up to bytes, of a modulus that can sign. -/
def leastBits : Nat := 2048

/-- The greatest number of bits of a modulus that can sign. -/
def mostBits : Nat := 4096

/-- Why the bytes of an RSA key cannot sign, if they cannot. -/
def faultOf (bytes : List UInt8) : Option KeyFault :=
  match Der.parse? bytes with
  | some [.sequence items] =>
      match items.mapM naturalOf? with
      | some (version :: numbers) =>
          if 255 < version then some .invalidEncoding
          else if version ≠ 0 then some .versionNotSupported
          else if numbers.length ≠ 8 then some .invalidEncoding
          else
            let bits := match numbers with
              | 0 :: _ => 0
              | n :: _ => Nat.log2 n + 1
              | [] => 0
            if (bits + 7) / 8 * 8 < leastBits then some .tooSmall
            else if mostBits < bits then some .tooLarge
            else none
      | _ => some .invalidEncoding
  | _ => some .invalidEncoding

/-- The key of a text, with the identifier to be placed in assertions. -/
def ofText (text : String) (keyId : Option String) : Except KeyError SigningKey :=
  match Armour.first? text with
  | none => .error .invalidFormat
  | some a =>
      match keyBytes a with
      | .error e => .error e
      | .ok bytes => .ok { keyId, fault := faultOf bytes }

end SigningKey

end Conformance
