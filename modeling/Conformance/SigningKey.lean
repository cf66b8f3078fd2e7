import Conformance.Text.Quoted

/-!
# Signing keys

A key that client assertions are signed with. What matters of a key is the identifier that it puts
into the header of every assertion, and whether its material can sign at all.
-/

namespace Conformance

/-- Why key material cannot sign. -/
inductive KeyFault where
  /-- The material is no private key in the expected form. -/
  | invalidEncoding
  /-- The private key has a version other than zero. -/
  | versionNotSupported
  /-- The modulus is too short. -/
  | tooSmall
  /-- The modulus is too long. -/
  | tooLarge
  deriving DecidableEq, Repr

/-- The name of a fault in messages. -/
def KeyFault.name : KeyFault → String
  | .invalidEncoding => "InvalidEncoding"
  | .versionNotSupported => "VersionNotSupported"
  | .tooSmall => "TooSmall"
  | .tooLarge => "TooLarge"

/-- A key for signing client assertions. -/
structure SigningKey where
  /-- The key identifier placed in the header of an assertion. -/
  keyId : Option String
  /-- Why the material cannot sign, if it cannot. -/
  fault : Option KeyFault
  deriving DecidableEq, Repr

/-- The key as logs show it: never its material. -/
def SigningKey.show (key : SigningKey) : String :=
  let keyId := match key.keyId with
    | none => "None"
    | some k => "Some(" ++ Text.quoted k ++ ")"
  "SigningKey \x7b kid: " ++ keyId ++ ", .. \x7d"

end Conformance
