import Conformance.Context
import Conformance.Grant
import Conformance.Http

/-!
# Exchanging codes

Exchanging an authorisation code for a token at the token endpoint, on behalf of a client that
proves itself with its name and secret.
-/

namespace Conformance

/-- Why a code was not exchanged. -/
inductive ExchangeError where
  /-- A value that the request needs is not set. -/
  | missingValue (name : String)
  /-- The endpoint refuses. -/
  | refused (status : Nat) (endpoint : String) (reason : Option String)
  /-- The answer is no granted token. -/
  | unreadable
  /-- Connecting, sending or receiving failed. -/
  | broken
  deriving DecidableEq, Repr

/-- The message of a code that was not exchanged. -/
def ExchangeError.message : ExchangeError → String
  | .missingValue name => "cannot get " ++ name ++ " for code exchange"
  | .refused status endpoint reason =>
      "bad status code " ++ Text.decimal status ++ " from exchange token " ++ endpoint ++
        match reason with
        | none => ""
        | some r => ": " ++ r
  | .unreadable => "invalid token response"
  | .broken => "HTTP request failed"

namespace CodeExchange

/-- A text that the request needs. -/
def needed (ctx : Context) (name : String) : Except ExchangeError String :=
  match ctx.getText name with
  | .ok s => .ok s
  | .error _ => .error (.missingValue name)

/-- The request for the token of a code, unless it cannot be sent. -/
def request? [Idna] (code credentials endpoint redirect : String) : Option HttpRequest := do
  let url ← (Url.parse endpoint).toOption
  let headers ← Http.headers? [("accept", "*/*"), ("authorization", "Basic " ++ credentials),
    ("content-type", "application/x-www-form-urlencoded")]
  return { method := "POST", url, headers
           body := some (Form.encode [("grant_type", "authorization_code"), ("code", code),
             ("redirect_uri", redirect)]) }

/-- The token that an answer grants. -/
def grantOf (endpoint : String) (reply : HttpReply) : Except ExchangeError GrantToken :=
  let body := Http.bodyText reply
  if reply.status ≠ 200 then
    let refusal := (Json.read GrantRefusal.reader body).toOption
    .error (.refused reply.status endpoint (refusal.map (·.message)))
  else
    match Json.read GrantToken.reader body with
    | .ok token => .ok token
    | .error _ => .error .unreadable

/-- Exchange a code for a token. -/
def exchange [Idna] {σ : Type} (network : Network σ) (code : String) (ctx : Context) (s : σ) :
    Except ExchangeError GrantToken × σ :=
  let wanted := do
    let credentials ← needed ctx "basic_authentication"
    let endpoint ← needed ctx "token_endpoint"
    let redirect ← needed ctx "redirect_url"
    return (credentials, endpoint, redirect)
  match wanted with
  | .error e => (.error e, s)
  | .ok (credentials, endpoint, redirect) =>
      match request? code credentials endpoint redirect with
      | none => (.error .broken, s)
      | some request =>
          match Http.carry network true request s with
          | (none, s) => (.error .broken, s)
          | (some reply, s) => (grantOf endpoint reply, s)

/-- Exchange a code and keep the access token under the name of its token; the context stays as it
is when that fails. -/
def complete [Idna] {σ : Type} (network : Network σ) (tokenName code : String) (ctx : Context)
    (s : σ) : (Except ExchangeError String × Context) × σ :=
  match exchange network code ctx s with
  | (.error e, s) => ((.error e, ctx), s)
  | (.ok token, s) => ((.ok token.accessToken, ctx.putText tokenName token.accessToken), s)

end CodeExchange

end Conformance
