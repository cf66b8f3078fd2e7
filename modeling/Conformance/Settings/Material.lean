import Conformance.Settings.Load
import Conformance.SigningKey.Pem

/-!
# Material of connections

The certificates and keys that a connection is made with. Files hold armoured blocks, line by line.
A client identity needs a certificate and a private key that belong together; further trust anchors
are certificates.
-/

namespace Conformance

namespace Armour

/-! ## Blocks of a text -/

/-- The labels of blocks that are material. -/
def materialLabels : List String :=
  ["CERTIFICATE", "PUBLIC KEY", "RSA PRIVATE KEY", "PRIVATE KEY", "EC PRIVATE KEY", "X509 CRL",
    "CERTIFICATE REQUEST", "ECHCONFIG"]

/-- What a line that begins a block starts with. -/
def openingMark : List Char := "-----BEGIN ".toList

/-- The label of a line that begins a block: five hyphens end it, after which only blanks follow. -/
def label? (line : List Char) : Option (List Char) :=
  let body := (line.reverse.dropWhile fun c => c == '\r' || c == ' ').reverse
  let hyphens := (body.reverse.takeWhile (· == '-')).length
  if hyphens = 5 ∧ openingMark.length + 5 ≤ body.length then
    some ((body.take (body.length - 5)).drop openingMark.length)
  else none

/-- The bytes of Base64 text in which blanks do not count. -/
def decode? (cs : List Char) : Option (List UInt8) :=
  Text.Base64.decodePadded? .standard (cs.filter fun c => !Text.isBlank c)

/-- The blocks of lines, where a block may be open already; nothing when a block is not well formed
or not ended. Blocks that are no material are passed over. -/
def ofLines? : Option (List Char) → List Char → List (List Char) → Option (List Armour)
  | none, _, [] => some []
  | some _, _, [] => none
  | label, content, line :: rest =>
      if openingMark.isPrefixOf line then
        match label? line with
        | none => none
        | some label => ofLines? (some label) content rest
      else
        match label with
        | none => ofLines? none content rest
        | some label =>
            if ("-----END ".toList ++ label ++ "-----".toList).isPrefixOf line then
              if materialLabels.contains (String.ofList label) then do
                let bytes ← decode? content
                return ⟨String.ofList label, bytes⟩ :: (← ofLines? none [] rest)
              else ofLines? none [] rest
            else ofLines? (some label) (content ++ line) rest

/-- The blocks of a file. -/
def all? (bytes : List UInt8) : Option (List Armour) :=
  ofLines? none [] (Text.splitOn '\n' (bytes.map fun b => Char.ofNat b.toNat))

/-- Whether a block is a private key. -/
def isPrivateKey (a : Armour) : Bool :=
  ["RSA PRIVATE KEY", "PRIVATE KEY", "EC PRIVATE KEY"].contains a.label

/-- Whether a block is a certificate. -/
def isCertificate (a : Armour) : Bool := a.label == "CERTIFICATE"

end Armour

/-! ## Identities -/

/-- The material with which a client proves itself. -/
structure ClientIdentity where
  /-- Its certificate. -/
  certificate : Armour
  /-- Its private key. -/
  key : Armour

namespace ClientIdentity

/-- The identity in a file, which holds nothing but certificates and keys. The first certificate and
the last key count. -/
def ofBytes? (bytes : List UInt8) : Option ClientIdentity := do
  let blocks ← Armour.all? bytes
  if !blocks.all fun a => a.isPrivateKey || a.isCertificate then none
  return ⟨← blocks.find? (·.isCertificate), ← (blocks.filter (·.isPrivateKey)).getLast?⟩

/-- The numbers of the sequence that bytes are. -/
def numbers? (bytes : List UInt8) : Option (List Nat) :=
  match Der.parse? bytes with
  | some [.sequence items] => items.mapM SigningKey.naturalOf?
  | _ => none

/-- The bytes of an RSA private key. -/
def privateBytes? (a : Armour) : Option (List UInt8) :=
  if a.label == "RSA PRIVATE KEY" then some a.content
  else (Der.parse? a.content).bind Der.firstStringIn?

/-- The modulus and exponent of the key in a certificate. -/
def certified? (a : Armour) : Option (List Nat) := do
  numbers? (← Der.firstStringIn? (← Der.parse? a.content))

/-- Whether certificate and key belong together, as far as both are of RSA. -/
def isConsistent (i : ClientIdentity) : Bool :=
  (Der.parse? i.certificate.content).isSome && (Der.parse? i.key.content).isSome &&
    match certified? i.certificate, (privateBytes? i.key).bind numbers? with
    | some certified, some (_ :: numbers) =>
        certified == numbers.take 2 &&
          (((privateBytes? i.key).map SigningKey.faultOf).getD none).isNone
    | _, _ => true

end ClientIdentity

/-! ## Checking -/

namespace TransportSettings

/-- Accept something, or refuse the material. -/
def accept (b : Bool) : Except SettingsError Unit := if b then .ok () else .error .unusableMaterial

/-- The identity of the client, if certificate and key are named. -/
def identity? (t : TransportSettings) (files : Files) :
    Except SettingsError (Option ClientIdentity) :=
  match t.certPath, t.keyPath with
  | some cert, some key => do
      let certBytes ← files.bytes cert
      let keyBytes ← files.bytes key
      match ClientIdentity.ofBytes? (certBytes ++ keyBytes) with
      | some i => return some i
      | none => throw .unusableMaterial
  | _, _ => .ok none

/-- The bytes of the trust anchors, if they are named. -/
def anchors? (t : TransportSettings) (files : Files) : Except SettingsError (List UInt8) :=
  match t.caPath with
  | some path => files.bytes path
  | none => .ok []

/-- Whether bytes hold trust anchors: every certificate among the blocks is one. -/
def areAnchors (bytes : List UInt8) : Bool :=
  match Armour.all? bytes with
  | none => false
  | some blocks => (blocks.filter (·.isCertificate)).all fun a => (Der.parse? a.content).isSome

/-- Check that the material of a connection can be used. Files are read first, the certificate and
key before the trust anchors. -/
def checkMaterial (t : TransportSettings) (files : Files) : Except SettingsError Unit := do
  let identity ← t.identity? files
  let anchors ← t.anchors? files
  accept (areAnchors anchors)
  accept (identity.all (·.isConsistent))

end TransportSettings

/-- Check that the connection that settings describe can be made. -/
def RunSettings.checkTransport (s : RunSettings) (files : Files) : Except SettingsError Unit :=
  match s.transport with
  | none => .ok ()
  | some t => t.checkMaterial files

end Conformance
