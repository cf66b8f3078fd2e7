import Conformance.Settings
import Conformance.Text.Utf8
import Conformance.Toml.Reading

/-!
# Loading settings

Run settings from TOML texts and from files. Settings that cannot be used are refused.
-/

namespace Conformance

/-- Why no settings were loaded. -/
inductive SettingsError where
  /-- The file cannot be read. -/
  | unreadable (path reason : String)
  /-- The text is no TOML, or holds no settings. -/
  | malformed
  /-- The settings cannot be used. -/
  | invalid (reason : InvalidSettings)
  /-- The material of the connection cannot be used. -/
  | unusableMaterial
  deriving DecidableEq, Repr

/-- The message of settings that were not loaded. -/
def SettingsError.message : SettingsError → String
  | .unreadable path reason => "reading " ++ path ++ ": " ++ reason
  | .malformed => "parsing run config: malformed"
  | .invalid reason => reason.message
  | .unusableMaterial => "building HTTP client: unusable material"

/-- A way to obtain consents in TOML: its name, or a table whose only key is its name and whose
value is empty. -/
def Acquisition.tomlReader : Json.Draft.Reader Acquisition := fun _ d =>
  let named (name : String) : Except Json.Problem Acquisition :=
    match Acquisition.ofName? name with
    | some a => .ok a
    | none => .error .mismatch
  match d with
  | .string s _ => s >>= named
  | .object [(key, .object [] _)] _ => key >>= named
  | .object [(key, .array [] _)] _ => key >>= named
  | d => .error d.refusal

/-- The notation of TOML texts. -/
def SettingsNotation.toml : SettingsNotation where
  acquisition := Acquisition.tomlReader
  surplus := true

/-- What reading a file gives: its bytes, or why it cannot be read. -/
abbrev FileContent := Except String (List UInt8)

/-- What the files of a file system give, by path. -/
abbrev Files := String → FileContent

namespace Files

/-- The reason of a file that does not exist. -/
def missing : String := "No such file or directory (os error 2)"

/-- The reason of a file that is no text. -/
def noText : String := "stream did not contain valid UTF-8"

/-- The bytes of a file. -/
def bytes (files : Files) (path : String) : Except SettingsError (List UInt8) :=
  match files path with
  | .ok bytes => .ok bytes
  | .error reason => .error (.unreadable path reason)

/-- The text of a file. -/
def text (files : Files) (path : String) : Except SettingsError String := do
  match Text.Utf8.decode? (← files.bytes path) with
  | some cs => return String.ofList cs
  | none => throw (.unreadable path noText)

end Files

namespace RunSettings

/-- The settings of a TOML text. -/
def ofToml (text : String) : Except SettingsError RunSettings :=
  match Toml.parse? text with
  | none => .error .malformed
  | some document =>
      match reader .toml Json.Draft.depthLimit document.draft with
      | .error _ => .error .malformed
      | .ok settings =>
          match settings.validate with
          | .error e => .error (.invalid e)
          | .ok () => .ok settings

/-- The settings of a file. -/
def ofFile (files : Files) (path : String) : Except SettingsError RunSettings := do
  ofToml (← files.text path)

end RunSettings

end Conformance
