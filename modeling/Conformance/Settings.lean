import Conformance.Json.Draft
import Conformance.Redaction

/-!
# Run settings

How a run is carried out: how tokens are acquired, how long to wait, how requests are sent and what
is logged.
-/

namespace Conformance

/-- How consents are obtained. -/
inductive Acquisition where
  /-- A person authorises the consent at a URL. -/
  | psu
  /-- The bank approves on its own, and the authorisation code is exchanged at once. -/
  | headless
  deriving DecidableEq, Repr, Inhabited

/-- The name of a way to obtain consents. -/
def Acquisition.name : Acquisition → String
  | .psu => "psu"
  | .headless => "headless"

/-- The ways to obtain consents. -/
def Acquisition.all : List Acquisition := [.psu, .headless]

/-- The way to obtain consents that has a name. -/
def Acquisition.ofName? (s : String) : Option Acquisition := all.find? fun a => a.name == s

/-- What is logged. -/
structure LogSettings where
  /-- The level from which on events are logged. -/
  level : String := "info"
  /-- Whether log lines are JSON. -/
  json : Bool := false
  /-- Fragments of names to mask in addition to the default ones. -/
  redactFields : List String := []
  deriving DecidableEq, Repr, Inhabited

/-- All fragments of names to mask: the default ones, then the additional ones. -/
def LogSettings.fragments (s : LogSettings) : List String :=
  Redaction.defaultFragments ++ s.redactFields

/-- The material of a connection, as paths of files. -/
structure TransportSettings where
  /-- The client certificates. -/
  certPath : Option String := none
  /-- The client's private key. -/
  keyPath : Option String := none
  /-- A further trust anchor. -/
  caPath : Option String := none
  /-- Whether any server certificate is accepted. -/
  acceptInvalidCerts : Bool := false
  deriving DecidableEq, Repr, Inhabited

/-- How a run is carried out. -/
structure RunSettings where
  /-- How consents are obtained. -/
  acquisition : Acquisition := .psu
  /-- The seconds after which waiting for consents ends. -/
  consentTimeoutSecs : Nat := 30
  /-- The seconds after which waiting for a response ends. -/
  requestTimeoutSecs : Nat := 30
  /-- Whether redirects are followed. -/
  followRedirects : Bool := false
  /-- The material of the connection. -/
  transport : Option TransportSettings := none
  /-- What is logged. -/
  logging : LogSettings := {}
  deriving DecidableEq, Repr, Inhabited

/-- Why settings cannot be used. -/
inductive InvalidSettings where
  /-- Consents would not be waited for. -/
  | noConsentTimeout
  /-- Responses would not be waited for. -/
  | noRequestTimeout
  /-- Of certificate and key only one is given. -/
  | certWithoutKey
  deriving DecidableEq, Repr

/-- The message of settings that cannot be used. -/
def InvalidSettings.message : InvalidSettings → String
  | .noConsentTimeout => "invalid run config: consent_timeout_secs must be greater than zero"
  | .noRequestTimeout => "invalid run config: request_timeout_secs must be greater than zero"
  | .certWithoutKey =>
      "invalid run config: transport cert_path and key_path must be set together"

namespace RunSettings

/-- Whether certificate and key are given together or not at all. -/
def pairedMaterial (t : TransportSettings) : Bool := t.certPath.isSome == t.keyPath.isSome

/-- Check that settings can be used; the first problem counts. -/
def validate (s : RunSettings) : Except InvalidSettings Unit :=
  if s.consentTimeoutSecs = 0 then .error .noConsentTimeout
  else if s.requestTimeoutSecs = 0 then .error .noRequestTimeout
  else
    match s.transport with
    | none => .ok ()
    | some t => if pairedMaterial t then .ok () else .error .certWithoutKey

/-- Choose how consents are obtained. -/
def withAcquisition (s : RunSettings) (a : Acquisition) : RunSettings := { s with acquisition := a }

/-- Choose how long to wait for consents, in nanoseconds; parts of a second are dropped. -/
def withConsentTimeout (s : RunSettings) (nanos : Nat) : RunSettings :=
  { s with consentTimeoutSecs := nanos / 1000000000 }

/-- Choose whether redirects are followed. -/
def withFollowRedirects (s : RunSettings) (follow : Bool) : RunSettings :=
  { s with followRedirects := follow }

/-- How long to wait for consents, in nanoseconds. -/
def consentTimeout (s : RunSettings) : Nat := s.consentTimeoutSecs * 1000000000

/-- How long to wait for a response, in nanoseconds. -/
def requestTimeout (s : RunSettings) : Nat := s.requestTimeoutSecs * 1000000000

end RunSettings

/-! ## As documents -/

/-- What the notations of settings differ in. -/
structure SettingsNotation where
  /-- How a way to obtain consents is written. -/
  acquisition : Json.Draft.Reader Acquisition
  /-- Whether a record written as an array may go on after its last field. -/
  surplus : Bool

/-- The notation of JSON texts. -/
def SettingsNotation.json : SettingsNotation where
  acquisition := fun depth d => do
    let name ← Json.Draft.oneOf (Acquisition.all.map Acquisition.name) depth d
    return (Acquisition.ofName? name).getD .psu
  surplus := false

namespace LogSettings

/-- Log settings as a document. -/
def toJson (s : LogSettings) : Json :=
  .object [("log_level", .string s.level), ("json_logs", .bool s.json),
    ("redact_fields", .strings s.redactFields)]

/-- Log settings of a document. -/
def reader (n : SettingsNotation) : Json.Draft.Reader LogSettings :=
  Json.Draft.recordOf n.surplus
    [.defaulted "log_level", .defaulted "json_logs", .defaulted "redact_fields"] {}
    fun name depth d s =>
      match name with
      | "log_level" => return { s with level := ← d.text depth }
      | "json_logs" => return { s with json := ← d.flag depth }
      | _ => return { s with redactFields := ← Json.Draft.list Json.Draft.text depth d }

end LogSettings

namespace TransportSettings

/-- Connection settings as a document. -/
def toJson (t : TransportSettings) : Json :=
  .object [("cert_path", .ofOption .string t.certPath), ("key_path", .ofOption .string t.keyPath),
    ("ca_path", .ofOption .string t.caPath), ("accept_invalid_certs", .bool t.acceptInvalidCerts)]

/-- Connection settings of a document. -/
def reader (n : SettingsNotation) : Json.Draft.Reader TransportSettings :=
  Json.Draft.recordOf n.surplus
    [.defaulted "cert_path", .defaulted "key_path", .defaulted "ca_path",
      .defaulted "accept_invalid_certs"] {} fun name depth d t =>
      match name with
      | "cert_path" => return { t with certPath := ← Json.Draft.nullable Json.Draft.text depth d }
      | "key_path" => return { t with keyPath := ← Json.Draft.nullable Json.Draft.text depth d }
      | "ca_path" => return { t with caPath := ← Json.Draft.nullable Json.Draft.text depth d }
      | _ => return { t with acceptInvalidCerts := ← d.flag depth }

end TransportSettings

namespace RunSettings

/-- Settings as a document. -/
def toJson (s : RunSettings) : Json :=
  .object [("token_acquisition", .string s.acquisition.name),
    ("consent_timeout_secs", .nat s.consentTimeoutSecs),
    ("request_timeout_secs", .nat s.requestTimeoutSecs),
    ("follow_redirects", .bool s.followRedirects),
    ("transport", .ofOption TransportSettings.toJson s.transport),
    ("telemetry", s.logging.toJson)]

/-- The fields of settings in a document. -/
def fields : List Json.Draft.Field :=
  [.defaulted "token_acquisition", .defaulted "consent_timeout_secs",
    .defaulted "request_timeout_secs", .defaulted "follow_redirects", .defaulted "transport",
    .defaulted "telemetry"]

/-- Take in one field. -/
def setField (n : SettingsNotation) : Json.Draft.Setter RunSettings := fun name depth d s =>
  match name with
  | "token_acquisition" => return { s with acquisition := ← n.acquisition depth d }
  | "consent_timeout_secs" => return { s with consentTimeoutSecs := ← d.natOfBits 64 depth }
  | "request_timeout_secs" => return { s with requestTimeoutSecs := ← d.natOfBits 64 depth }
  | "follow_redirects" => return { s with followRedirects := ← d.flag depth }
  | "transport" =>
      return { s with transport := ← Json.Draft.nullable (TransportSettings.reader n) depth d }
  | _ => return { s with logging := ← LogSettings.reader n depth d }

/-- Settings of a document. -/
def reader (n : SettingsNotation) : Json.Draft.Reader RunSettings :=
  Json.Draft.recordOf n.surplus fields {} (setField n)

end RunSettings

end Conformance
