import Conformance.Request.Prepare
import Conformance.Text.Utf8

/-!
# HTTP messages

Requests and replies as they go over a connection, and the network as whatever takes a request and
may give a reply. Names of headers are kept in lower case.
-/

namespace Conformance

/-- A request as it goes out. -/
structure HttpRequest where
  /-- The method. -/
  method : String
  /-- The URL. -/
  url : Url
  /-- The headers, in the order in which they are sent. -/
  headers : List (String × String)
  /-- The body. -/
  body : Option String
  deriving DecidableEq, Repr

/-- A reply as it comes in. -/
structure HttpReply where
  /-- The status code. -/
  status : Nat
  /-- The headers, in the order in which they are received. -/
  headers : List (String × List UInt8)
  /-- The body. -/
  body : List UInt8
  /-- The nanoseconds from the request to the end of the reply. -/
  nanos : Nat := 0
  deriving DecidableEq, Repr

/-- What carries requests: it gives a reply, or nothing when the connection fails. -/
structure Network (σ : Type) where
  /-- Carry a request. -/
  carry : HttpRequest → σ → Option HttpReply × σ

/-- The network on which no connection is ever made. -/
def Network.unreachable (σ : Type) : Network σ := ⟨fun _ s => (none, s)⟩

namespace Http

/-! ## Tokens and headers -/

/-- Whether `c` may stand in a method or in the name of a header. -/
def isTokenChar (c : Char) : Bool :=
  ('a' ≤ c && c ≤ 'z') || ('A' ≤ c && c ≤ 'Z') || ('0' ≤ c && c ≤ '9') ||
    "!#$%&'*+-.^_|~".toList.contains c || c.toNat == 0x60

/-- Whether a text may be a method or the name of a header. -/
def isToken (s : String) : Bool := !s.isEmpty && s.toList.all isTokenChar

/-- Whether a text may be the value of a header: it has no controls but the tab. -/
def isHeaderValue (s : String) : Bool :=
  s.toList.all fun c => c == '\t' || (0x20 ≤ c.toNat && c.toNat ≠ 0x7F)

/-- A value without the blanks around it. -/
def trimValue (s : String) : String :=
  let blank (c : Char) : Bool := c == ' ' || c == '\t'
  String.ofList ((s.toList.dropWhile blank).reverse.dropWhile blank).reverse

/-- The text of a received value, if it is visible ASCII with blanks. -/
def visible? (bytes : List UInt8) : Option String :=
  if bytes.all fun b => b == 9 || (0x20 ≤ b.toNat && b.toNat < 0x7F) then
    some (String.ofList (bytes.map fun b => Char.ofNat b.toNat))
  else none

/-- The headers of a request, unless one of them cannot be sent. -/
def headers? (headers : List (String × String)) : Option (List (String × String)) :=
  headers.mapM fun h =>
    if isToken h.1 && isHeaderValue h.2 then
      some (Text.asciiLowercase h.1, trimValue h.2)
    else none

/-- The value of a received header. -/
def header? (reply : HttpReply) (name : String) : Option String :=
  (reply.headers.find? fun h => h.1 == name).bind fun h => visible? h.2

/-! ## Redirects -/

/-- How many redirects are followed. -/
def redirectLimit : Nat := 10

/-- The headers that go only to the host for which they were meant. -/
def hostBound : List String :=
  ["authorization", "cookie", "cookie2", "proxy-authorization", "www-authenticate"]

/-- The headers that describe a body. -/
def bodyBound : List String :=
  ["transfer-encoding", "content-encoding", "content-type", "content-length"]

/-- Whether two URLs name the same host and port. -/
def sameHost (a b : Url) : Bool :=
  match a.authority, b.authority with
  | some x, some y => x.host == y.host &&
      x.port.or (Url.usualPort? a.scheme) == y.port.or (Url.usualPort? b.scheme)
  | _, _ => false

/-- The URL that a request names as the one it comes from, unless that would tell a secure one. -/
def referrer? (previous next : Url) : Option String :=
  if previous.scheme == "https" && next.scheme == "http" then none
  else
    let authority := previous.authority.map fun a => { a with username := "", password := "" }
    some ({ previous with authority := authority, fragment := none } : Url).render

/-- Set a header, in place of all of its name. -/
def setHeader (headers : List (String × String)) (name value : String) : List (String × String) :=
  headers.filter (·.1 != name) ++ [(name, value)]

/-- Whether a scheme can be asked for over HTTP. -/
def isWeb (scheme : String) : Bool := scheme == "http" || scheme == "https"

/-- The request that a reply redirects to, if it does. A reply that is not about repeating the
request makes it a request without a body. -/
def redirected? [Idna] (request : HttpRequest) (reply : HttpReply) : Option HttpRequest := do
  let plain := [301, 302, 303].contains reply.status
  if !(plain || [307, 308].contains reply.status) then none
  let next ← (request.url.join (← header? reply "location")).toOption
  let kept := if sameHost request.url next then request.headers
    else request.headers.filter fun h => !hostBound.contains h.1
  let kept := if plain then kept.filter fun h => !bodyBound.contains h.1 else kept
  return {
    method := if plain && request.method != "HEAD" then "GET" else request.method
    url := next
    headers := match referrer? request.url next with
      | some text => setHeader kept "referer" text
      | none => kept
    body := if plain then none else request.body }

/-- Carry a request and follow where the replies redirect it, a number of times at most. -/
def follow [Idna] {σ : Type} (network : Network σ) : Nat → HttpRequest → σ → Option HttpReply × σ
  | left, request, s =>
      if !isWeb request.url.scheme then (none, s)
      else
        match network.carry request s with
        | (none, s) => (none, s)
        | (some reply, s) =>
            match redirected? request reply with
            | none => (some reply, s)
            | some next =>
                match left with
                | 0 => (none, s)
                | left + 1 => follow network left next s

/-- Carry a request, following redirects if they are to be followed. -/
def carry [Idna] {σ : Type} (network : Network σ) (redirects : Bool) (request : HttpRequest)
    (s : σ) : Option HttpReply × σ :=
  if redirects then follow network redirectLimit request s
  else if isWeb request.url.scheme then network.carry request s
  else (none, s)

/-- The body of a reply as text. -/
def bodyText (reply : HttpReply) : String := String.ofList (Text.Utf8.decodeLossy reply.body)

end Http

end Conformance
