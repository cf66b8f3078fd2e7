import Conformance.Context
import Conformance.Json.Draft
import Conformance.Text.Lowercase
import Conformance.Text.Split

/-!
# Redaction

Masking what must not be logged. A name is sensitive when its lower-case form holds the lower-case
form of a configured fragment. Values of sensitive names are replaced by a fixed mask, at any depth
of a JSON value, in header maps and in query strings, where a parameter called `request` is masked
as well.
-/

namespace Conformance

namespace Redaction

/-- What stands in place of a masked value. -/
def mask : String := "[REDACTED]"

/-- The fragments that are always masked. -/
def defaultFragments : List String := ["authorization", "token", "secret", "password", "assertion"]

/-- Whether a name holds one of the fragments, in lower case both. -/
def isSensitive (fragments : List String) (name : String) : Bool :=
  let name := (Text.lowercase name).toList
  fragments.any fun f => Text.occursIn (Text.lowercase f).toList name

mutual

/-- Mask the members with sensitive names, at any depth. -/
def redact (fragments : List String) : Json → Json
  | .object members => .object (redactMembers fragments members)
  | .array items => .array (redactItems fragments items)
  | .null => .null
  | .bool b => .bool b
  | .number n => .number n
  | .string s => .string s

/-- Mask within the items of an array. -/
def redactItems (fragments : List String) : List Json → List Json
  | [] => []
  | v :: rest => redact fragments v :: redactItems fragments rest

/-- Mask the members of an object. -/
def redactMembers (fragments : List String) : List (String × Json) → List (String × Json)
  | [] => []
  | (k, v) :: rest =>
      (k, if isSensitive fragments k then .string mask else redact fragments v) ::
        redactMembers fragments rest

end

/-- Mask the values of sensitive headers. -/
def redactHeaders (fragments : List String) (headers : KeyMap String) : KeyMap String :=
  ⟨headers.entries.map fun e => (e.1, if isSensitive fragments e.1 then mask else e.2), by
    rw [List.pairwise_map]; exact headers.ordered⟩

/-- Mask one `key=value` pair of a query. -/
def redactPair (fragments : List String) (pair : List Char) : List Char :=
  match Text.splitOnce '=' pair with
  | none => pair
  | some (key, _) =>
      if isSensitive fragments (String.ofList key) || key == "request".toList then
        key ++ '=' :: mask.toList
      else pair

/-- Mask the sensitive pairs of a query or form. -/
def redactQuery (fragments : List String) (query : String) : String :=
  String.ofList (['&'].intercalate
    ((Text.splitOn '&' query.toList).map (redactPair fragments)))

/-- A URL as it may be logged: everything after the first question mark is taken for a query. -/
def loggableUrl (fragments : List String) (url : String) : String :=
  match Text.splitOnce '?' url.toList with
  | none => url
  | some (base, query) =>
      String.ofList base ++ "?" ++ redactQuery fragments (String.ofList query)

/-- A context as it may be logged: its document with sensitive names masked, and its size. -/
def dump (fragments : List String) (ctx : Context) : Json × Nat :=
  (redact fragments ctx.toJson, ctx.size)

end Redaction

end Conformance
