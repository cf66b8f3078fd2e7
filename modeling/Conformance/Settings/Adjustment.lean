import Conformance.Machine
import Conformance.Settings

/-!
# Changing settings

Changes that are made to settings after they were read, and the deadline that settings give.
-/

namespace Conformance

/-- A change of settings. -/
inductive Adjustment where
  /-- Obtain consents in another way. -/
  | acquisition (a : Acquisition)
  /-- Wait for consents for so many nanoseconds. -/
  | consentTimeout (nanos : Nat)
  /-- Follow redirects or do not. -/
  | followRedirects (follow : Bool)
  deriving DecidableEq, Repr

namespace RunSettings

/-- Make a change. -/
def adjust (s : RunSettings) : Adjustment → RunSettings
  | .acquisition a => s.withAcquisition a
  | .consentTimeout nanos => s.withConsentTimeout nanos
  | .followRedirects follow => s.withFollowRedirects follow

/-- Make changes, one after the other. -/
def adjustAll (s : RunSettings) (changes : List Adjustment) : RunSettings := changes.foldl adjust s

/-- When a wait for consents that begins now is given up. -/
def deadline? (s : RunSettings) (c : Clock) : Option Nat := c.ahead? s.consentTimeout

end RunSettings

end Conformance
