import Conformance.Json.Literal
import Conformance.Json.Numeral
import Conformance.Json.Render

/-!
# Drafts

A draft is a text read as JSON as far as it can be: a tree in which every place that is not JSON is
marked with its problem. Reading a document of a given kind walks the draft in the order of the
text, so of several faults the first one decides, be it a wrong kind, a missing member or a text
that breaks off; and what nothing asks for is only skipped over, which is more lenient than reading
it.
-/

namespace Conformance.Json

/-- A text read as JSON as far as it can be. A fault is why the text cannot even be skipped over
from within that place on. -/
inductive Draft where
  /-- The text ends where a value should stand. -/
  | absent
  /-- No value can stand here. -/
  | broken (problem : Problem)
  | null
  | bool (value : Bool)
  | number (value : Except Problem Number) (fault : Option Problem)
  | string (value : Except Problem String) (fault : Option Problem)
  | array (items : List Draft) (fault : Option Problem)
  | object (members : List (Except Problem String × Draft)) (fault : Option Problem)

namespace Draft

/-! ## Scanning -/

/-- Whether `c` may stand between the parts of a JSON text. -/
def isSpace (c : Char) : Bool := c == ' ' || c == '\n' || c == '\t' || c == '\r'

/-- The text from its first character that is no space. -/
def skipSpace (cs : List Char) : List Char := cs.dropWhile isSpace

/-- Read the rest of a literal name. -/
def scanName (value : Draft) : List Char → List Char → Draft × Except Problem (List Char)
  | [], cs => (value, .ok cs)
  | _ :: _, [] => (.broken .truncated, .error .truncated)
  | n :: name, c :: cs =>
      if n = c then scanName value name cs else (.broken .malformed, .error .malformed)

mutual

/-- A value at the front of a text, and what follows it. The first argument bounds the number of
characters that are looked at. -/
def scan : Nat → List Char → Draft × Except Problem (List Char)
  | 0, _ => (.absent, .error .truncated)
  | fuel + 1, cs =>
      match skipSpace cs with
      | [] => (.absent, .error .truncated)
      | 'n' :: rest => scanName .null ['u', 'l', 'l'] rest
      | 't' :: rest => scanName (.bool true) ['r', 'u', 'e'] rest
      | 'f' :: rest => scanName (.bool false) ['a', 'l', 's', 'e'] rest
      | '"' :: rest =>
          let (value, after) := scanString rest
          (.string value (faultOf after), after)
      | '[' :: rest =>
          match skipSpace rest with
          | ']' :: rest => (.array [] none, .ok rest)
          | [] => (.array [] (some .truncated), .error .truncated)
          | rest =>
              let (items, after) := scanItems fuel rest
              (.array items (faultOf after), after)
      | '{' :: rest =>
          match skipSpace rest with
          | '}' :: rest => (.object [] none, .ok rest)
          | [] => (.object [] (some .truncated), .error .truncated)
          | rest =>
              let (members, after) := scanMembers fuel rest
              (.object members (faultOf after), after)
      | c :: rest =>
          if c = '-' || Text.isDigit c then
            let (value, after) := scanNumber (c :: rest)
            (.number value (faultOf after), after)
          else (.broken .malformed, .error .malformed)

/-- The items of an array from one of them on, and what follows the closing bracket. -/
def scanItems : Nat → List Char → List Draft × Except Problem (List Char)
  | 0, _ => ([], .error .truncated)
  | fuel + 1, cs =>
      let (item, after) := scan fuel cs
      match after with
      | .error p => ([item], .error p)
      | .ok rest =>
          match skipSpace rest with
          | ']' :: rest => ([item], .ok rest)
          | ',' :: rest =>
              let (items, after) := scanItems fuel rest
              (item :: items, after)
          | [] => ([item], .error .truncated)
          | _ => ([item], .error .malformed)

/-- The members of an object from one of them on, and what follows the closing brace. -/
def scanMembers :
    Nat → List Char → List (Except Problem String × Draft) × Except Problem (List Char)
  | 0, _ => ([], .error .truncated)
  | fuel + 1, cs =>
      match skipSpace cs with
      | [] => ([(.error .truncated, .absent)], .error .truncated)
      | '"' :: rest =>
          let (key, after) := scanString rest
          match after with
          | .error p => ([(key, .broken p)], .error p)
          | .ok rest =>
              match skipSpace rest with
              | [] => ([(key, .broken .truncated)], .error .truncated)
              | ':' :: rest =>
                  let (value, after) := scan fuel rest
                  match after with
                  | .error p => ([(key, value)], .error p)
                  | .ok rest =>
                      match skipSpace rest with
                      | '}' :: rest => ([(key, value)], .ok rest)
                      | ',' :: rest =>
                          let (members, after) := scanMembers fuel rest
                          ((key, value) :: members, after)
                      | [] => ([(key, value)], .error .truncated)
                      | _ => ([(key, value)], .error .malformed)
              | _ => ([(key, .broken .malformed)], .error .malformed)
      | _ => ([(.error .malformed, .broken .malformed)], .error .malformed)

end

/-! ## Reading values -/

/-- How many arrays and objects may stand within one another. -/
def depthLimit : Nat := 127

/-- The problem of a place that cannot be skipped over. -/
def fault : Draft → Option Problem
  | .absent => some .truncated
  | .broken p => some p
  | .null => none
  | .bool _ => none
  | .number _ f => f
  | .string _ f => f
  | .array _ f => f
  | .object _ f => f

/-- Why a value of a kind that is not wanted is refused: a number or string is read in full before
its kind is. -/
def refusal : Draft → Problem
  | .absent => .truncated
  | .broken p => p
  | .number (.error p) _ => p
  | .string (.error p) _ => p
  | _ => .mismatch

/-- Give up at a fault. -/
def check : Option Problem → Except Problem Unit
  | none => .ok ()
  | some p => .error p

/-- Enter an array or object: how many more may stand within it. -/
def enter : Nat → Except Problem Nat
  | 0 => .error .malformed
  | depth + 1 => .ok depth

mutual

/-- The value of a draft without faults, not nested more deeply than given. -/
def value (depth : Nat) : Draft → Except Problem Json
  | .absent => .error .truncated
  | .broken p => .error p
  | .null => .ok .null
  | .bool b => .ok (.bool b)
  | .number n _ => n.map .number
  | .string s _ => s.map .string
  | .array items f => do
      let depth ← enter depth
      let vs ← values depth items
      check f
      return .array vs
  | .object members f => do
      let depth ← enter depth
      let ms ← memberValues depth members
      check f
      return objectOf ms

/-- The values of drafts in order. -/
def values (depth : Nat) : List Draft → Except Problem (List Json)
  | [] => .ok []
  | d :: rest => do
      let v ← value depth d
      let vs ← values depth rest
      return v :: vs

/-- The members of an object in the order of the text. -/
def memberValues (depth : Nat) :
    List (Except Problem String × Draft) → Except Problem (List (String × Json))
  | [] => .ok []
  | (key, d) :: rest => do
      let k ← key
      let v ← value depth d
      let ms ← memberValues depth rest
      return (k, v) :: ms

end

/-! ## Reading a wanted kind -/

/-- What reads a draft of a wanted kind; the first argument is how many arrays and objects may still
be entered. -/
abbrev Reader (α : Type) := Nat → Draft → Except Problem α

/-- A text. -/
def text : Reader String
  | _, .string s _ => s
  | _, d => .error d.refusal

/-- A truth value. -/
def flag : Reader Bool
  | _, .bool b => .ok b
  | _, d => .error d.refusal

/-- A whole number that fits into the given number of bits. -/
def natOfBits (bits : Nat) : Reader Nat
  | _, .number n _ => do
      match ← n with
      | .int (.ofNat k) => if k < Nat.pow 2 bits then .ok k else .error .mismatch
      | _ => .error .mismatch
  | _, d => .error d.refusal

/-- A whole number of 16 bits. -/
def uint16 : Reader UInt16 := fun depth d => (natOfBits 16 depth d).map .ofNat

/-- A whole number of 64 bits. -/
def uint64 : Reader UInt64 := fun depth d => (natOfBits 64 depth d).map .ofNat

/-- A value or `null`. -/
def nullable {α : Type} (read : Reader α) : Reader (Option α)
  | _, .null => .ok none
  | depth, d => (read depth d).map some

/-- Read drafts in order. -/
def readAll {α : Type} (read : Draft → Except Problem α) : List Draft → Except Problem (List α)
  | [] => .ok []
  | d :: rest => do
      let a ← read d
      let as ← readAll read rest
      return a :: as

/-- An array of one kind of items. -/
def list {α : Type} (read : Reader α) : Reader (List α)
  | depth, .array items f => do
      let depth ← enter depth
      let as ← readAll (read depth) items
      check f
      return as
  | _, d => .error d.refusal

/-- Read members in order, a later one winning over an earlier one of its name. -/
def readMembers {α : Type} (read : Draft → Except Problem α) :
    KeyMap α → List (Except Problem String × Draft) → Except Problem (KeyMap α)
  | m, [] => .ok m
  | m, (key, d) :: rest => do
      let k ← key
      let a ← read d
      readMembers read (m.put k a) rest

/-- An object whose members are of one kind. -/
def keyMap {α : Type} (read : Reader α) : Reader (KeyMap α)
  | depth, .object members f => do
      let depth ← enter depth
      let m ← readMembers (read depth) .empty members
      check f
      return m
  | _, d => .error d.refusal

/-- One of a list of names, as a text or as an object whose only member has that name and is
`null`. -/
def oneOf (names : List String) : Reader String
  | _, .string s _ => do
      let name ← s
      if names.contains name then return name else .error .mismatch
  | depth, .object members f => do
      let _ ← enter depth
      match members with
      | [] => .error (f.getD .malformed)
      | (key, d) :: rest => do
          let name ← key
          if names.contains name then
            match d with
            | .null =>
                if rest.isEmpty then
                  check f
                  return name
                else .error .malformed
            | d => .error d.refusal
          else .error .mismatch
  | _, .absent => .error .truncated
  | _, _ => .error .malformed

/-! ## Records -/

/-- A field of a record. -/
structure Field where
  /-- The member's name. -/
  name : String
  /-- Whether an object must have it. -/
  inObject : Bool
  /-- Whether an array of the fields must reach it. -/
  inArray : Bool

/-- A field that must be there. -/
def Field.required (name : String) : Field := ⟨name, true, true⟩

/-- A field that may be left out. -/
def Field.defaulted (name : String) : Field := ⟨name, false, false⟩

/-- A field that only an object may leave out. -/
def Field.optional (name : String) : Field := ⟨name, false, true⟩

/-- How a record takes in the field of a given name. -/
abbrev Setter (σ : Type) := String → Nat → Draft → σ → Except Problem σ

/-- Take in the members of an object: known ones once each, others are skipped over. -/
def recordMembers {σ : Type} (fields : List Field) (set : Setter σ) (depth : Nat) :
    List String → σ → List (Except Problem String × Draft) → Except Problem (List String × σ)
  | seen, s, [] => .ok (seen, s)
  | seen, s, (key, d) :: rest => do
      let k ← key
      if fields.any (·.name == k) then
        if seen.contains k then .error .mismatch
        else
          let s ← set k depth d s
          recordMembers fields set depth (k :: seen) s rest
      else
        check d.fault
        recordMembers fields set depth seen s rest

/-- Take in the fields of a record written as an array. Items beyond the last field are refused,
unless `surplus` allows them. -/
def recordItems {σ : Type} (set : Setter σ) (surplus : Bool) (depth : Nat) (f : Option Problem) :
    List Field → σ → List Draft → Except Problem σ
  | [], s, [] => do
      check f
      return s
  | [], s, _ :: _ => if surplus then .ok s else .error .malformed
  | field :: fields, s, [] => do
      check f
      if field.inArray then .error .mismatch else recordItems set surplus depth f fields s []
  | field :: fields, s, d :: rest => do
      let s ← set field.name depth d s
      recordItems set surplus depth f fields s rest

/-- A record, as an object of its fields or as an array of them in their order. -/
def recordOf {σ : Type} (surplus : Bool) (fields : List Field) (start : σ) (set : Setter σ) :
    Reader σ
  | depth, .object members f => do
      let depth ← enter depth
      let (seen, s) ← recordMembers fields set depth [] start members
      check f
      if fields.all fun field => !field.inObject || seen.contains field.name then return s
      else .error .mismatch
  | depth, .array items f => do
      let depth ← enter depth
      recordItems set surplus depth f fields start items
  | _, d => .error d.refusal

/-- A record of a JSON text. -/
def record {σ : Type} (fields : List Field) (start : σ) (set : Setter σ) : Reader σ :=
  recordOf false fields start set

end Draft

/-! ## Whole texts -/

/-- Read a whole text as one document of a wanted kind. -/
def readChars {α : Type} (read : Draft.Reader α) (cs : List Char) : Except Problem α := do
  let (draft, after) := Draft.scan (cs.length + 1) cs
  let a ← read Draft.depthLimit draft
  let rest ← after
  if (Draft.skipSpace rest).isEmpty then return a else .error .malformed

/-- Read a whole text as one document of a wanted kind. -/
def read {α : Type} (reader : Draft.Reader α) (text : String) : Except Problem α :=
  readChars reader text.toList

/-- The value of a text. -/
def parse (text : String) : Except Problem Json := read Draft.value text

/-- The value of a text, if it has one. -/
def parse? (text : String) : Option Json := (parse text).toOption

end Conformance.Json
