import Conformance.Context

/-!
# Templates

A template is a text with variables: a dollar sign followed by one or more ASCII letters, digits,
underscores and hyphens, as many as there are. Expanding a template replaces every variable by the
text that the context holds under its name. The replacement is not looked at again, even when it
holds a dollar sign.
-/

namespace Conformance

/-- What happens to a variable that the context has no text for. -/
inductive Expansion where
  /-- It is an error. -/
  | strict
  /-- It stays as it is, for a later expansion. -/
  | lenient
  deriving DecidableEq, Repr

/-- Why a template cannot be expanded. -/
inductive ExpandError where
  /-- The context does not set the variable. -/
  | missing (name : String)
  /-- The context sets the variable to something else than a text. -/
  | notText (name actual : String)
  deriving DecidableEq, Repr

/-- The message of a failed expansion. -/
def ExpandError.message : ExpandError → String
  | .missing name => "missing context variable: $" ++ name
  | .notText name actual => "context variable $" ++ name ++ " is not a string (" ++ actual ++ ")"

/-- A failed read as a failed expansion. -/
def ContextError.toExpandError : ContextError → ExpandError
  | .notFound key => .missing key
  | .typeMismatch key _ actual => .notText key actual

namespace Template

/-! ## Pieces -/

/-- A piece of a template. -/
inductive Piece where
  /-- A character that stands for itself. -/
  | literal (char : Char)
  /-- A variable by its name. -/
  | variable (name : List Char)
  deriving DecidableEq, Repr

/-- Whether `c` may stand in the name of a variable. -/
def isNameChar (c : Char) : Bool :=
  ('a' ≤ c && c ≤ 'z') || ('A' ≤ c && c ≤ 'Z') || ('0' ≤ c && c ≤ '9') || c == '_' || c == '-'

/-- The name characters at the front of a text, and the pieces of what follows them. -/
def split : List Char → List Char × List Piece
  | [] => ([], [])
  | c :: rest =>
      let (name, pieces) := split rest
      if isNameChar c then (c :: name, pieces)
      else if c = '$' ∧ name ≠ [] then ([], .variable name :: pieces)
      else ([], .literal c :: (name.map .literal ++ pieces))

/-- The pieces of a template. -/
def pieces (cs : List Char) : List Piece :=
  let (name, pieces) := split cs
  name.map .literal ++ pieces

/-- A piece as it is written. -/
def Piece.source : Piece → List Char
  | .literal c => [c]
  | .variable name => '$' :: name

/-! ## Expansion -/

/-- The text that a piece expands to. -/
def Piece.expand (ctx : Context) (mode : Expansion) : Piece → Except ExpandError (List Char)
  | .literal c => .ok [c]
  | .variable name =>
      match ctx.getText (String.ofList name), mode with
      | .ok value, _ => .ok value.toList
      | .error e, .strict => .error e.toExpandError
      | .error _, .lenient => .ok ('$' :: name)

/-- The text that pieces expand to; the first variable without a text decides. -/
def expandAll (ctx : Context) (mode : Expansion) : List Piece → Except ExpandError (List Char)
  | [] => .ok []
  | p :: rest =>
      match p.expand ctx mode with
      | .error e => .error e
      | .ok front =>
          match expandAll ctx mode rest with
          | .error e => .error e
          | .ok back => .ok (front ++ back)

/-- Expand a template. -/
def expand (ctx : Context) (mode : Expansion) (template : String) : Except ExpandError String :=
  (expandAll ctx mode (pieces template.toList)).map String.ofList

/-- Expand a template that may be absent. -/
def expandOption (ctx : Context) (mode : Expansion) :
    Option String → Except ExpandError (Option String)
  | none => .ok none
  | some template => (expand ctx mode template).map some

/-- Expand the values of a map in the order of its keys. -/
def expandMap (ctx : Context) (mode : Expansion) (m : KeyMap String) :
    Except ExpandError (KeyMap String) :=
  m.mapM fun _ => expand ctx mode

/-- Expand a template as far as the context has texts for it. -/
def expandKnown (ctx : Context) (template : String) : String :=
  match expand ctx .lenient template with
  | .ok s => s
  | .error _ => template

end Template

end Conformance
