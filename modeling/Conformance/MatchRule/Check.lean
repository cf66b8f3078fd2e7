import Conformance.Json.Path
import Conformance.MatchRule
import Conformance.Pattern
import Conformance.Response
import Conformance.Schema.Routes
import Conformance.Template
import Conformance.Text.Blank

/-!
# Checking match rules

What a rule finds in a response, or how the response violates it. A rule yields the value that it
looked at, which for a pattern is what its first group has matched.
-/

namespace Conformance

/-- How a response violates what is expected of it. -/
inductive Violation where
  /-- It has another status. -/
  | status (expected actual : Nat)
  /-- A header is not there. -/
  | headerMissing (rule header : String)
  /-- A header has another value. -/
  | headerValue (rule header expected actual : String)
  /-- There is no value at a path of the body. -/
  | pathMissing (rule path : String)
  /-- There is another value at a path of the body. -/
  | jsonValue (rule path expected actual : String)
  /-- A value does not match a pattern. -/
  | patternMismatch (rule pattern target : String)
  /-- A pattern is no pattern. -/
  | patternInvalid (rule pattern reason : String)
  /-- The body has another size. -/
  | bodyLength (rule : String) (expected actual : Nat)
  /-- There is no bearer token. -/
  | bearerMissing (rule : String)
  /-- The rule fills no field that can be checked. -/
  | emptyRule (rule : String)
  /-- No value can be extracted into the context. -/
  | extraction (name reason : String)
  /-- The body does not fit the schema of its operation. -/
  | schema (reason : String)
  deriving DecidableEq, Repr

/-- The message of a violation. -/
def Violation.message : Violation → String
  | .status expected actual =>
      "(Expect:StatusCode) expected " ++ Text.decimal expected ++ ", got " ++ Text.decimal actual
  | .headerMissing rule header => "(" ++ rule ++ ") header " ++ header ++ " not present"
  | .headerValue rule header expected actual =>
      "(" ++ rule ++ ") header " ++ header ++ " expected " ++ Text.quoted expected ++ ", got " ++
        Text.quoted actual
  | .pathMissing rule path => "(" ++ rule ++ ") json path " ++ path ++ " not found"
  | .jsonValue rule path expected actual =>
      "(" ++ rule ++ ") json path " ++ path ++ " expected " ++ Text.quoted expected ++ ", got " ++
        Text.quoted actual
  | .patternMismatch rule pattern target =>
      "(" ++ rule ++ ") regex " ++ pattern ++ " did not match " ++ target
  | .patternInvalid rule pattern reason =>
      "(" ++ rule ++ ") invalid regex " ++ pattern ++ ": " ++ reason
  | .bodyLength rule expected actual =>
      "(" ++ rule ++ ") body length expected " ++ Text.decimal expected ++ ", got " ++
        Text.decimal actual
  | .bearerMissing rule => "(" ++ rule ++ ") no bearer token in Authorization header"
  | .emptyRule rule => "(" ++ rule ++ ") match has no checkable field"
  | .extraction name reason => "(contextPut " ++ name ++ ") could not extract value: " ++ reason
  | .schema reason => "(Expect:SchemaValidation) " ++ reason

/-- The token of an `Authorization` header with the scheme `Bearer`. -/
def bearerToken? (header : String) : Option String :=
  match Text.splitOnce ' ' (Text.trimBlanks header.toList) with
  | none => none
  | some (scheme, token) =>
      let token := Text.trimBlanks token
      if Text.equalIgnoringCase (String.ofList scheme) "bearer" && !token.isEmpty then
        some (String.ofList token)
      else none

namespace MatchRule

/-- The number of characters that messages show of a value. -/
def shownLength : Nat := 120

/-- A value as messages show it. -/
def shown (target : String) : String :=
  if target.length ≤ shownLength then target
  else String.ofList (target.toList.take shownLength) ++ "..."

/-- The value of a header. -/
def headerOf (r : MatchRule) (response : Response) (name : String) : Except Violation String :=
  match response.header? name with
  | some v => .ok v
  | none => .error (.headerMissing r.describe name)

/-- The value at the rule's path of the body, as text. -/
def bodyValue (r : MatchRule) (body : Option Json) : Except Violation String :=
  match body.bind (·.lookup r.json) with
  | some v => .ok v.asText
  | none => .error (.pathMissing r.describe r.json)

/-- What the rule's pattern finds in a value. -/
def findIn (r : MatchRule) (target : String) : Except Violation String :=
  match Pattern.compile r.regex with
  | .error e => .error (.patternInvalid r.describe r.regex e.message)
  | .ok pattern =>
      match pattern.capture? target with
      | none => .error (.patternMismatch r.describe r.regex (shown target))
      | some found => .ok found

/-- The value that the rule expects; variables without a text are compared as they are. -/
def expected (r : MatchRule) (ctx : Context) : String := Template.expandKnown ctx r.value

/-- Check a response whose body has the given JSON value, and yield the value looked at. -/
def check (r : MatchRule) (response : Response) (body : Option Json) (ctx : Context) :
    Except Violation String :=
  match r.kind with
  | .headerValue =>
      match r.headerOf response r.header with
      | .error e => .error e
      | .ok actual =>
          if actual = r.expected ctx then .ok actual
          else .error (.headerValue r.describe r.header (r.expected ctx) actual)
  | .headerRegex =>
      match r.headerOf response r.header with
      | .error e => .error e
      | .ok actual => r.findIn actual
  | .headerPresent => r.headerOf response r.headerPresent
  | .jsonValue =>
      match r.bodyValue body with
      | .error e => .error e
      | .ok actual =>
          if actual = r.expected ctx then .ok actual
          else .error (.jsonValue r.describe r.json (r.expected ctx) actual)
  | .jsonRegex =>
      match r.bodyValue body with
      | .error e => .error e
      | .ok actual => r.findIn actual
  | .jsonPresent => r.bodyValue body
  | .bodyRegex => r.findIn response.body
  | .bodyLength =>
      let expected := (r.bodyLength.getD 0).toNat
      let actual := response.body.utf8ByteSize
      if actual = expected then .ok (Text.decimal actual)
      else .error (.bodyLength r.describe expected actual)
  | .authorisation =>
      match (response.header? "authorization").bind bearerToken? with
      | some token => .ok token
      | none => .error (.bearerMissing r.describe)
  | .unknown => .error (.emptyRule r.describe)

end MatchRule

end Conformance
