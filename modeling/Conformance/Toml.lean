import Conformance.Binary64
import Conformance.Json.Draft

/-!
# TOML trees

A TOML document as a tree of tables, built line by line. A table remembers how it has come about,
for that decides what may still be added to it: a header may complete a table that a longer header
has implied, dotted keys may only add to tables that have not been written out, and nothing is
defined twice.
-/

namespace Conformance

/-- How a table has come about. -/
inductive Toml.Origin where
  /-- It has a header, or is the document itself. -/
  | header
  /-- The header of a table within it has implied it. -/
  | implied
  /-- A dotted key has implied it. -/
  | dotted
  /-- It is written as a value, between braces. -/
  | literal
  deriving DecidableEq, Repr

/-- A TOML value. -/
inductive Toml where
  | string (value : String)
  | integer (value : Int)
  /-- A floating-point number, nothing if it is not finite. -/
  | float (value : Option Binary64)
  | boolean (value : Bool)
  | datetime (text : String)
  | array (items : List Toml)
  | table (origin : Toml.Origin) (members : List (String × Toml))
  /-- A list of tables that have headers, none of them missing. -/
  | tables (items : List (List (String × Toml)))
  deriving Inhabited

namespace Toml

/-- The members of a table in the order in which they were defined. -/
abbrev Members := List (String × Toml)

namespace Members

/-- What a key is defined as. -/
def get? (ms : Members) (key : String) : Option Toml :=
  (ms.find? fun m => m.1 == key).map (·.2)

/-- Define a key anew. -/
def replace (ms : Members) (key : String) (value : Toml) : Members :=
  ms.map fun m => if m.1 == key then (key, value) else m

/-- Define a key that is not defined yet. -/
def define (ms : Members) (key : String) (value : Toml) : Option Members :=
  match ms.get? key with
  | none => some (ms ++ [(key, value)])
  | some _ => none

end Members

/-! ## Building -/

/-- Whether dotted keys may go through a table. -/
def Origin.isOpen (dotted : Bool) : Origin → Bool
  | .header => !dotted
  | .implied => true
  | .dotted => true
  | .literal => false

/-- Change the table that is found at a path, where missing tables are implied. A list of tables
stands for its last one. -/
def within (dotted : Bool) (change : Origin → Members → Option Members) :
    List String → Origin → Members → Option Members
  | [], origin, ms => change origin ms
  | key :: path, _, ms =>
      match ms.get? key with
      | none =>
          let origin := if dotted then .dotted else .implied
          (within dotted change path origin []).map fun sub => ms ++ [(key, .table origin sub)]
      | some (.table origin sub) =>
          if origin.isOpen dotted then
            (within dotted change path origin sub).map fun sub =>
              ms.replace key (.table origin sub)
          else none
      | some (.tables items) =>
          (within dotted change path .header (items.getLast?.getD [])).map fun last =>
            ms.replace key (.tables (items.dropLast ++ [last]))
      | some _ => none

/-- Define a key, given as its dotted path, in a table. A table that dotted keys have implied takes
only keys that go through its own dotted path. -/
def assign (path : List String) (value : Toml) (origin : Origin) (ms : Members) : Option Members :=
  match path.getLast? with
  | none => none
  | some key =>
      let path := path.dropLast
      within true (fun origin ms =>
        if (origin == .dotted) == path.isEmpty then none else ms.define key value) path origin ms

/-- Define the table of a header. -/
def openTable (key : String) (_ : Origin) (ms : Members) : Option Members :=
  match ms.get? key with
  | none => some (ms ++ [(key, .table .header [])])
  | some (.table .implied sub) => some (ms.replace key (.table .header sub))
  | some _ => none

/-- Add a table to the list of a header. -/
def openItem (key : String) (_ : Origin) (ms : Members) : Option Members :=
  match ms.get? key with
  | none => some (ms ++ [(key, .tables [[]])])
  | some (.tables items) => some (ms.replace key (.tables (items ++ [[]])))
  | some _ => none

/-- Take in a header. -/
def header (isItem : Bool) (path : List String) (ms : Members) : Option Members :=
  match path.getLast? with
  | none => none
  | some key =>
      within false (if isItem then openItem key else openTable key) path.dropLast .header ms

/-! ## As drafts -/

mutual

/-- A value as a draft of a document. A date is an object that no record has a field for. -/
def draft : Toml → Json.Draft
  | .string s => .string (.ok s) none
  | .integer n => .number (.ok (.int n)) none
  | .float x => .number (.ok (.float (x.getD (.zero false)))) none
  | .boolean b => .bool b
  | .datetime text => .object [(.ok "$datetime", .string (.ok text) none)] none
  | .array items => .array (drafts items) none
  | .table _ ms => .object (memberDrafts ms) none
  | .tables items => .array (tableDrafts items) none

/-- Values as drafts. -/
def drafts : List Toml → List Json.Draft
  | [] => []
  | v :: rest => draft v :: drafts rest

/-- Members as drafts. -/
def memberDrafts : List (String × Toml) → List (Except Json.Problem String × Json.Draft)
  | [] => []
  | (k, v) :: rest => (.ok k, draft v) :: memberDrafts rest

/-- Tables as drafts. -/
def tableDrafts : List (List (String × Toml)) → List Json.Draft
  | [] => []
  | ms :: rest => .object (memberDrafts ms) none :: tableDrafts rest

end

end Toml

end Conformance
