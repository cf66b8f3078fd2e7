import Conformance.Json.Draft
import Conformance.KeyMap
import Conformance.SigningKey
import Conformance.Text.Quoted

/-!
# Contexts

The values that test cases share: a map from names to texts, lists of texts and handles. Templates
read it, responses and request preparation write it. A name that is not set is an error to read,
never an empty value.
-/

namespace Conformance

/-- A value that only its users can look into. -/
inductive Handle where
  /-- A key for signing assertions. -/
  | signingKey (key : SigningKey)
  /-- A number with no meaning of its own. -/
  | number (value : Nat)
  deriving DecidableEq, Repr

/-- A value of a context. -/
inductive Context.Value where
  | text (value : String)
  | texts (items : List String)
  | handle (value : Handle)
  deriving DecidableEq, Repr

/-- The values that test cases share, by name. -/
structure Context where
  /-- The values by name. -/
  values : KeyMap Context.Value
  deriving DecidableEq, Repr

/-- Why a value cannot be read from a context. -/
inductive ContextError where
  /-- The name is not set. -/
  | notFound (key : String)
  /-- The name holds a value of another kind. -/
  | typeMismatch (key expected actual : String)
  deriving DecidableEq, Repr

/-- The message of a failed read. -/
def ContextError.message : ContextError → String
  | .notFound key => "context key not found: " ++ key
  | .typeMismatch key expected actual =>
      "context key " ++ key ++ " holds " ++ actual ++ ", expected " ++ expected

namespace Context

/-- The kind of a value in messages. -/
def Value.kind : Value → String
  | .text _ => "string"
  | .texts _ => "string slice"
  | .handle _ => "opaque value"

/-- A value as logs show it. -/
def Value.show : Value → String
  | .text s => "String(" ++ Text.quoted s ++ ")"
  | .texts items => "StringSlice(" ++ Text.quotedList items ++ ")"
  | .handle _ => "Opaque(..)"

/-! ## Names with a meaning of their own -/

/-- The name that holds the key for signing assertions. -/
def signingKeyName : String := "signing_key"

/-! ## Reading -/

/-- The context without values. -/
def empty : Context := ⟨.empty⟩

instance : Inhabited Context := ⟨empty⟩

instance : EmptyCollection Context := ⟨empty⟩

/-- The value of a name. -/
def get (ctx : Context) (key : String) : Except ContextError Value :=
  match ctx.values.get? key with
  | some v => .ok v
  | none => .error (.notFound key)

/-- Whether a name is set. -/
def contains (ctx : Context) (key : String) : Bool := ctx.values.contains key

/-- The text that a name holds. -/
def getText (ctx : Context) (key : String) : Except ContextError String :=
  match ctx.get key with
  | .ok (.text s) => .ok s
  | .ok v => .error (.typeMismatch key "string" v.kind)
  | .error e => .error e

/-- The list of texts that a name holds. -/
def getTexts (ctx : Context) (key : String) : Except ContextError (List String) :=
  match ctx.get key with
  | .ok (.texts items) => .ok items
  | .ok v => .error (.typeMismatch key "string slice" v.kind)
  | .error e => .error e

/-- The signing key that a name holds. -/
def getSigningKey (ctx : Context) (key : String) : Except ContextError SigningKey :=
  match ctx.get key with
  | .ok (.handle (.signingKey k)) => .ok k
  | .ok v => .error (.typeMismatch key "fcs_model::claims::SigningKey" v.kind)
  | .error e => .error e

/-- The number behind the handle that a name holds. -/
def getNumber (ctx : Context) (key : String) : Except ContextError Nat :=
  match ctx.get key with
  | .ok (.handle (.number n)) => .ok n
  | .ok v => .error (.typeMismatch key "u32" v.kind)
  | .error e => .error e

/-- The names that are set, in order. -/
def keys (ctx : Context) : List String := ctx.values.keys

/-- The number of names that are set. -/
def size (ctx : Context) : Nat := ctx.values.size

/-! ## Writing -/

/-- Set a name, replacing what it held. -/
def put (ctx : Context) (key : String) (value : Value) : Context := ⟨ctx.values.put key value⟩

/-- Set a name to a text. -/
def putText (ctx : Context) (key value : String) : Context := ctx.put key (.text value)

/-- Set names to texts, one after the other. -/
def putTexts (ctx : Context) (entries : List (String × String)) : Context :=
  entries.foldl (fun ctx e => ctx.putText e.1 e.2) ctx

/-- Copy every value of `other`, which wins where both set a name. -/
def overlay (ctx other : Context) : Context := ⟨ctx.values.overlay other.values⟩

/-- The context without a name. -/
def erase (ctx : Context) (key : String) : Context := ⟨ctx.values.erase key⟩

/-- The context of a list of values; of two with one name the later one counts. -/
def ofList (entries : List (String × Value)) : Context := ⟨.ofList entries⟩

/-! ## As documents -/

/-- The members of a context as a document: handles are left out. -/
def members : List (String × Value) → List (String × Json)
  | [] => []
  | (k, .text s) :: rest => (k, .string s) :: members rest
  | (k, .texts items) :: rest => (k, .strings items) :: members rest
  | (_, .handle _) :: rest => members rest

/-- A context as a document, without its handles. -/
def toJson (ctx : Context) : Json := .object (members ctx.values.entries)

/-- The text of every item, or nothing when an item is no text. -/
def allTexts? : List Json → Option (List String)
  | [] => some []
  | .string s :: rest => (allTexts? rest).map (s :: ·)
  | _ :: _ => none

/-- A value of a document: a text or a list of texts. -/
def readValue : Json.Draft.Reader Value := fun depth d => do
  match ← d.value depth with
  | .string s => return .text s
  | .array items =>
      match allTexts? items with
      | some texts => return .texts texts
      | none => .error .mismatch
  | _ => .error .mismatch

/-- A context of a document: an object of texts and lists of texts. -/
def reader : Json.Draft.Reader Context := fun depth d =>
  (Json.Draft.keyMap readValue depth d).map Context.mk

end Context

end Conformance
