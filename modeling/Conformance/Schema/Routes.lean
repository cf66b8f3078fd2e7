import Conformance.Response
import Conformance.Schema
import Conformance.Text.Split

/-!
# Schemas by operation

Which schema a response must fit follows from the method and path of its request and from its
status. Paths are compared segment by segment with templates, in which a segment in braces stands for
any segment that is not empty. The first schema that was registered for an operation counts.
-/

namespace Conformance

/-- A segment of a path template. -/
inductive PathSegment where
  /-- The segment itself. -/
  | literal (text : List Char)
  /-- Any segment that is not empty. -/
  | parameter
  deriving DecidableEq, Repr

/-- What is registered for the responses to an operation with a status. -/
structure SchemaEntry where
  /-- The method, in any case. -/
  method : String
  /-- The template of the path. -/
  template : String
  /-- The status. -/
  status : Nat
  /-- The failures of a body against the schema. -/
  failures : Json → List SchemaFailure

/-- A schema with the responses that it is for. -/
structure SchemaRoute where
  /-- The method in capitals. -/
  method : String
  /-- The segments of the path. -/
  template : List PathSegment
  /-- The status. -/
  status : Nat
  /-- The failures of a body against the schema. -/
  failures : Json → List SchemaFailure

/-- Schemas in the order in which they were registered. -/
structure SchemaRoutes where
  /-- The schemas with the responses that they are for. -/
  routes : List SchemaRoute

/-- What judges responses: the ways in which a response does not fit its schema. -/
abbrev SchemaCheck := Response → List SchemaFailure

namespace PathSegment

/-- A path without the slashes at its ends. -/
def stripSlashes (path : List Char) : List Char :=
  ((path.dropWhile (· == '/')).reverse.dropWhile (· == '/')).reverse

/-- The segments of a path without the slashes at its ends. -/
def cut (path : List Char) : List (List Char) := Text.splitOn '/' (stripSlashes path)

/-- A segment of a template. -/
def ofChars (segment : List Char) : PathSegment :=
  if segment.head? == some '{' && segment.getLast? == some '}' then .parameter
  else .literal segment

/-- The segments of a template. -/
def ofTemplate (template : String) : List PathSegment := (cut template.toList).map ofChars

/-- Whether a segment of a path is one that a template stands for. -/
def accepts : PathSegment → List Char → Bool
  | .literal text, part => text == part
  | .parameter, part => !part.isEmpty

/-- Whether the segments of a path are ones that a template stands for. -/
def acceptsAll : List PathSegment → List (List Char) → Bool
  | [], [] => true
  | s :: segments, p :: parts => s.accepts p && acceptsAll segments parts
  | _, _ => false

end PathSegment

/-- An entry made ready for comparing. -/
def SchemaEntry.route (e : SchemaEntry) : SchemaRoute :=
  ⟨Text.asciiUppercase e.method, PathSegment.ofTemplate e.template, e.status, e.failures⟩

namespace SchemaRoutes

/-- No schemas. -/
def empty : SchemaRoutes := ⟨[]⟩

/-- Register an entry behind those that are there. -/
def add (r : SchemaRoutes) (e : SchemaEntry) : SchemaRoutes := ⟨r.routes ++ [e.route]⟩

/-- Register a schema for the responses to an operation with a status. -/
def register (r : SchemaRoutes) (method template : String) (status : Nat) (schema : Schema) :
    SchemaRoutes :=
  r.add ⟨method, template, status, schema.failures ""⟩

/-- The schemas of entries, registered in order. -/
def ofEntries (entries : List SchemaEntry) : SchemaRoutes := entries.foldl add empty

/-- Whether a schema is for a response. -/
def appliesTo (response : Response) (route : SchemaRoute) : Bool :=
  route.status == response.status && Text.equalIgnoringCase route.method response.method &&
    PathSegment.acceptsAll route.template (PathSegment.cut response.path.toList)

/-- The schema for a response. -/
def find? (r : SchemaRoutes) (response : Response) : Option SchemaRoute :=
  r.routes.find? (appliesTo response)

/-- The ways in which a response does not fit its schema; none when it has no schema. -/
def check (r : SchemaRoutes) : SchemaCheck := fun response =>
  match r.find? response with
  | none => []
  | some route =>
      match response.json? with
      | none => [⟨"", "response body is not JSON"⟩]
      | some body => route.failures body

/-- The schemas as logs show them. -/
def describe (r : SchemaRoutes) : String :=
  "JsonSchemaValidator \x7b routes: " ++ Text.decimal r.routes.length ++ " \x7d"

end SchemaRoutes

end Conformance
