import Conformance.Json.Render

/-!
# Schemas

Schemas for JSON values: the keywords that say what a value must be, and the failures of a value
against them. A failure points at a part of the value. Failures come in the order of the keywords by
name, then of the members or items that they are about.
-/

namespace Conformance

/-- A type that a schema may name. -/
inductive JsonType where
  | array
  | boolean
  | integer
  | null
  | number
  | object
  | string
  deriving DecidableEq, Repr

/-- A schema. -/
inductive Schema where
  /-- Every value fits, or none does. -/
  | always (fits : Bool)
  /-- The value has one of the types. -/
  | types (names : List JsonType)
  /-- The value is the given one. -/
  | constant (value : Json)
  /-- The value is one of the given ones. -/
  | enumeration (values : List Json)
  /-- A number is at least the limit. -/
  | minimum (limit : Json.Number)
  /-- A number is at most the limit. -/
  | maximum (limit : Json.Number)
  /-- A string has at least so many characters. -/
  | minLength (limit : Nat)
  /-- A string has at most so many characters. -/
  | maxLength (limit : Nat)
  /-- An array has at least so many items. -/
  | minItems (limit : Nat)
  /-- An array has at most so many items. -/
  | maxItems (limit : Nat)
  /-- An object has all the members. -/
  | required (names : List String)
  /-- The members of an object, as far as there are any of these names, fit their schemas. -/
  | properties (schemas : List (String × Schema))
  /-- The items of an array fit the schema. -/
  | items (schema : Schema)
  /-- The value fits all schemas. -/
  | all (schemas : List Schema)

/-- One way in which a value does not fit a schema. -/
structure SchemaFailure where
  /-- The part of the value that does not fit, as a pointer; empty for the value itself. -/
  field : String
  /-- What is wrong with it. -/
  message : String
  deriving DecidableEq, Repr

/-- A failure with the part that it points at. -/
def SchemaFailure.display (f : SchemaFailure) : String :=
  if f.field.isEmpty then f.message else f.field ++ ": " ++ f.message

/-! ## Types -/

namespace JsonType

/-- The types in the order in which messages list them. -/
def all : List JsonType := [.array, .boolean, .integer, .null, .number, .object, .string]

/-- The name of a type. -/
def name : JsonType → String
  | .array => "array"
  | .boolean => "boolean"
  | .integer => "integer"
  | .null => "null"
  | .number => "number"
  | .object => "object"
  | .string => "string"

/-- The type of a name. -/
def ofName? (name : String) : Option JsonType := all.find? fun t => t.name == name

/-- Whether a value has a type; a number without a fraction is an integer, however written. -/
def holds : JsonType → Json → Bool
  | .array, .array _ => true
  | .boolean, .bool _ => true
  | .integer, .number (.int _) => true
  | .integer, .number (.float x) => x.toInt?.isSome
  | .null, .null => true
  | .number, .number _ => true
  | .object, .object _ => true
  | .string, .string _ => true
  | _, _ => false

end JsonType

/-! ## Numbers -/

namespace Json.Number

/-- The order of two numbers by their values. -/
def compareTo : Number → Number → Ordering
  | .int a, .int b => compare a b
  | .float x, .int b => x.compareInt b
  | .int a, .float y => (y.compareInt a).swap
  | .float x, .float y => x.compareTo y

/-- The nearest floating-point number. -/
def toFloat : Number → Binary64
  | .int (.ofNat n) => .ofNat n
  | .int (.negSucc n) => (Binary64.ofNat (n + 1)).neg
  | .float x => x

/-- Whether two numbers have the same nearest floating-point number. -/
def sameFloat (a b : Number) : Bool := a.toFloat.compareTo b.toFloat == .eq

/-- Whether two numbers differ by less than the distance from one to the next floating-point
number. -/
def nearlySame (a b : Number) : Bool :=
  let (p, q) := a.toFloat.ratio
  let (r, s) := b.toFloat.ratio
  let x : Int := (if a.toFloat.negative then -(p : Int) else p) * s
  let y : Int := (if b.toFloat.negative then -(r : Int) else r) * q
  (x - y).natAbs * Nat.pow 2 52 < q * s

end Json.Number

namespace Schema

/-! ## Equality -/

mutual

/-- Whether two values are equal, numbers being compared by their nearest floating-point numbers. -/
def sameValue : Json → Json → Bool
  | .null, .null => true
  | .bool a, .bool b => a == b
  | .number a, .number b => a.sameFloat b
  | .string a, .string b => a == b
  | .array a, .array b => sameItems a b
  | .object a, .object b => sameMembers a b
  | _, _ => false

/-- Whether two lists hold equal values. -/
def sameItems : List Json → List Json → Bool
  | [], [] => true
  | a :: as, b :: bs => sameValue a b && sameItems as bs
  | _, _ => false

/-- Whether two ordered lists of members have equal names and values. -/
def sameMembers : List (String × Json) → List (String × Json) → Bool
  | [], [] => true
  | (k, a) :: as, (l, b) :: bs => k == l && sameValue a b && sameMembers as bs
  | _, _ => false

end

/-- Whether a value is the constant of a schema. -/
def isConstant : Json → Json → Bool
  | .number a, .number b => a.nearlySame b
  | a, b => sameValue a b

/-! ## Failures -/

/-- A counted noun. -/
def counted (n : Nat) (noun : String) : String :=
  Text.decimal n ++ " " ++ noun ++ if n = 1 then "" else "s"

/-- A step of a pointer. -/
def pointerStep (name : String) : String :=
  "/" ++ String.ofList (name.toList.flatMap fun c =>
    if c = '~' then ['~', '0'] else if c = '/' then ['~', '1'] else [c])

/-- The failure of a value for which a condition does not hold. -/
def failing (ok : Bool) (path message : String) : List SchemaFailure :=
  if ok then [] else [⟨path, message⟩]

/-- The types of a schema as messages list them. -/
def typesMessage (names : List JsonType) : String :=
  match names with
  | [t] => " is not of type " ++ (Json.string t.name).render
  | _ => " is not of types " ++ ", ".intercalate
      ((JsonType.all.filter names.contains).map fun t => (Json.string t.name).render)

mutual

/-- The failures of a value against a schema, below a pointer. -/
def failures (path : String) : Schema → Json → List SchemaFailure
  | .always fits, v => failing fits path ("False schema does not allow " ++ v.render)
  | .types names, v => failing (names.any (·.holds v)) path (v.render ++ typesMessage names)
  | .constant c, v => failing (isConstant c v) path (c.render ++ " was expected")
  | .enumeration values, v =>
      failing (values.any (sameValue · v)) path
        (v.render ++ " is not one of " ++ (Json.array values).render)
  | .minimum limit, .number n =>
      failing (n.compareTo limit != .lt) path ((Json.number n).render ++
        " is less than the minimum of " ++ (Json.number limit).render)
  | .maximum limit, .number n =>
      failing (n.compareTo limit != .gt) path ((Json.number n).render ++
        " is greater than the maximum of " ++ (Json.number limit).render)
  | .minLength limit, .string s =>
      failing (limit ≤ s.length) path ((Json.string s).render ++ " is shorter than " ++
        counted limit "character")
  | .maxLength limit, .string s =>
      failing (s.length ≤ limit) path ((Json.string s).render ++ " is longer than " ++
        counted limit "character")
  | .minItems limit, .array vs =>
      failing (limit ≤ vs.length) path ((Json.array vs).render ++ " has less than " ++
        counted limit "item")
  | .maxItems limit, .array vs =>
      failing (vs.length ≤ limit) path ((Json.array vs).render ++ " has more than " ++
        counted limit "item")
  | .required names, .object ms =>
      (names.filter fun n => !(ms.any fun m => m.1 == n)).map fun n =>
        ⟨path, (Json.string n).render ++ " is a required property"⟩
  | .properties schemas, .object ms => memberFailures path schemas ms
  | .items schema, .array vs =>
      (vs.zipIdx.map fun (v, i) => failures (path ++ "/" ++ Text.decimal i) schema v).flatten
  | .all schemas, v => allFailures path schemas v
  | .minimum _, _ => []
  | .maximum _, _ => []
  | .minLength _, _ => []
  | .maxLength _, _ => []
  | .minItems _, _ => []
  | .maxItems _, _ => []
  | .required _, _ => []
  | .properties _, _ => []
  | .items _, _ => []

/-- The failures of the members of an object. -/
def memberFailures (path : String) : List (String × Schema) → List (String × Json) →
    List SchemaFailure
  | [], _ => []
  | (name, schema) :: rest, ms =>
      (match ms.find? fun m => m.1 == name with
        | none => []
        | some m => failures (path ++ pointerStep name) schema m.2) ++
        memberFailures path rest ms

/-- The failures of a value against several schemas. -/
def allFailures (path : String) : List Schema → Json → List SchemaFailure
  | [], _ => []
  | s :: rest, v => failures path s v ++ allFailures path rest v

end

/-! ## As documents -/

/-- The size that a keyword gives: a number without a fraction that is not below zero. -/
def limit? : Json → Option Nat
  | .number (.int (.ofNat n)) => some n
  | .number (.float x) =>
      match x.toInt? with
      | some (.ofNat n) => some n
      | _ => none
  | _ => none

/-- The number that a keyword gives. -/
def number? : Json → Option Json.Number
  | .number n => some n
  | _ => none

/-- Texts of which none occurs twice. -/
def distinctTexts? : List Json → Option (List String)
  | [] => some []
  | .string s :: rest =>
      match distinctTexts? rest with
      | none => none
      | some others => if others.contains s then none else some (s :: others)
  | _ :: _ => none

/-- The types that a keyword gives: one name, or some that differ. -/
def types? : Json → Option (List JsonType)
  | .string s => (JsonType.ofName? s).map ([·])
  | .array list =>
      match distinctTexts? list with
      | none => none
      | some [] => none
      | some names => names.mapM JsonType.ofName?
  | _ => none

mutual

/-- The schema of a document. -/
def ofJson? : Json → Option Schema
  | .bool b => some (.always b)
  | .object members => (ofKeywords? members).map .all
  | _ => none

/-- The schemas of keywords; unknown ones say nothing. -/
def ofKeywords? : List (String × Json) → Option (List Schema)
  | [] => some []
  | (name, v) :: rest =>
      match keyword? name v, ofKeywords? rest with
      | some s, some others => some (s ++ others)
      | _, _ => none

/-- The schema of one keyword, if it is known. -/
def keyword? (name : String) : Json → Option (List Schema)
  | .object members =>
      match name with
      | "properties" => (ofProperties? members).map fun ps => [.properties ps]
      | "items" => (ofKeywords? members).map fun ss => [.items (.all ss)]
      | _ => simpleKeyword? name (.object members)
  | v =>
      match name with
      | "properties" => none
      | "items" =>
          match v with
          | .bool b => some [.items (.always b)]
          | _ => none
      | _ => simpleKeyword? name v

/-- The schemas of members by name. -/
def ofProperties? : List (String × Json) → Option (List (String × Schema))
  | [] => some []
  | (name, v) :: rest =>
      match ofJson? v, ofProperties? rest with
      | some s, some others => some ((name, s) :: others)
      | _, _ => none

/-- The schema of a keyword without schemas of its own. -/
def simpleKeyword? (name : String) (v : Json) : Option (List Schema) :=
  match name with
  | "type" => (types? v).map fun ts => [.types ts]
  | "const" => some [.constant v]
  | "enum" => v.array?.map fun vs => [.enumeration vs]
  | "minimum" => (number? v).map fun n => [.minimum n]
  | "maximum" => (number? v).map fun n => [.maximum n]
  | "minLength" => (limit? v).map fun n => [.minLength n]
  | "maxLength" => (limit? v).map fun n => [.maxLength n]
  | "minItems" => (limit? v).map fun n => [.minItems n]
  | "maxItems" => (limit? v).map fun n => [.maxItems n]
  | "required" =>
      match v with
      | .array list => (distinctTexts? list).map fun names => [.required names]
      | _ => none
  | _ => some []

end

end Schema

end Conformance
