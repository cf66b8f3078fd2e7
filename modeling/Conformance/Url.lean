import Conformance.Url.Form
import Conformance.Url.Host

/-!
# URLs

Reading and writing URLs by the rules of the web: how a text is cut into scheme, user, host, port,
path, query and fragment, which characters are percent-encoded in each part, and how dots in a path
are resolved.
-/

namespace Conformance

/-- Who is asked: the host with its port, and on whose behalf. -/
structure Authority where
  /-- The user, as it is written. -/
  username : String := ""
  /-- The password, as it is written. -/
  password : String := ""
  /-- The host. -/
  host : Host
  /-- The port, unless it is the usual one of the scheme. -/
  port : Option Nat := none
  deriving DecidableEq, Repr

/-- The path of a URL. -/
inductive UrlPath where
  /-- A text without segments. -/
  | plain (text : String)
  /-- Segments, each after a slash. -/
  | segments (parts : List String)
  deriving DecidableEq, Repr

/-- A URL. -/
structure Url where
  /-- The scheme, in lower case. -/
  scheme : String
  /-- Who is asked, if anyone. -/
  authority : Option Authority
  /-- The path. -/
  path : UrlPath
  /-- The query, as it is written. -/
  query : Option String
  /-- The fragment, as it is written. -/
  fragment : Option String
  deriving DecidableEq, Repr

namespace Url

/-! ## Parts -/

/-- Whether a scheme is one of the web, where paths always have segments. -/
def isSpecial (scheme : String) : Bool :=
  ["http", "https", "ws", "wss", "ftp", "file"].contains scheme

/-- The port that a scheme uses when none is named. -/
def usualPort? (scheme : String) : Option Nat :=
  match scheme with
  | "http" => some 80
  | "https" => some 443
  | "ws" => some 80
  | "wss" => some 443
  | "ftp" => some 21
  | _ => none

/-- Whether `c` stands for itself in a fragment. -/
def plainInFragment (c : Char) : Bool :=
  !(Host.isControl c || [' ', '"', '<', '>', '`'].contains c)

/-- Whether `c` stands for itself in a path. -/
def plainInPath (c : Char) : Bool := plainInFragment c && !(['#', '?', '{', '}'].contains c)

/-- Whether `c` stands for itself in the name of a user. -/
def plainInUser (c : Char) : Bool :=
  plainInPath c && !(['/', ':', ';', '=', '@', '[', '\\', ']', '^', '|'].contains c)

/-- Whether `c` stands for itself in a query. -/
def plainInQuery (special : Bool) (c : Char) : Bool :=
  !(Host.isControl c || [' ', '"', '#', '<', '>'].contains c || (special && c == '\''))

/-- Whether `c` separates the segments of a path. -/
def isSlash (special : Bool) (c : Char) : Bool := c == '/' || (special && c == '\\')

/-! ## Paths -/

/-- Whether a segment stands for the directory itself. -/
def isSingleDot (segment : List Char) : Bool :=
  ["." , "%2e"].contains (Text.asciiLowercase (String.ofList segment))

/-- Whether a segment stands for the directory above. -/
def isDoubleDot (segment : List Char) : Bool :=
  ["..", "%2e.", ".%2e", "%2e%2e"].contains (Text.asciiLowercase (String.ofList segment))

/-- Whether a segment names a drive. -/
def isDrive (segment : List Char) : Bool :=
  match segment with
  | [a, b] => a.isAlpha && (b == ':' || b == '|')
  | _ => false

/-- Segments, last first, without the last; the drive of a file stays. -/
def parent (isFile : Bool) : List String → List String
  | [] => []
  | [s] => if isFile && isDrive s.toList && s.toList.getLast? == some ':' then [s] else []
  | _ :: rest => rest

/-- Take in segments: dots are resolved, and other segments percent-encoded. -/
def resolveSegments (isFile : Bool) : List String → List (List Char) → List String
  | done, [] => done.reverse
  | done, [last] =>
      if isDoubleDot last then ("" :: parent isFile done).reverse
      else if isSingleDot last then ("" :: done).reverse
      else if isFile && done.isEmpty && isDrive last then [String.ofList (last.take 1 ++ [':'])]
      else (String.ofList (Text.Percent.encode plainInPath last) :: done).reverse
  | done, segment :: rest =>
      if isDoubleDot segment then resolveSegments isFile (parent isFile done) rest
      else if isSingleDot segment then resolveSegments isFile done rest
      else if isFile && done.isEmpty && isDrive segment then
        resolveSegments isFile [String.ofList (segment.take 1 ++ [':'])] rest
      else
        resolveSegments isFile (String.ofList (Text.Percent.encode plainInPath segment) :: done) rest

/-- A path cut into segments. -/
def cutSegments (special : Bool) : List Char → List (List Char)
  | [] => [[]]
  | c :: rest =>
      if isSlash special c then [] :: cutSegments special rest
      else
        match cutSegments special rest with
        | first :: others => (c :: first) :: others
        | [] => [[c]]

/-- Segments of which leading empty ones are dropped. -/
def dropEmpty : List String → List String
  | "" :: s :: rest => dropEmpty (s :: rest)
  | parts => parts

/-- The segments of a path from its leading slash on, below segments that it continues. -/
def segmentsOf (scheme : String) (base : List String) (cs : List Char) : List String :=
  let isFile := scheme == "file"
  let parts := resolveSegments isFile base.reverse (cutSegments (isSpecial scheme) cs)
  if isFile then dropEmpty parts else parts

/-- The path after an authority. -/
def pathAfterAuthority (scheme : String) (cs : List Char) : UrlPath :=
  match cs with
  | [] => .segments (if isSpecial scheme then [""] else [])
  | c :: rest =>
      .segments (segmentsOf scheme [] (if isSlash (isSpecial scheme) c then rest else c :: rest))

/-! ## Cutting -/

/-- The text up to a character, and what follows that character if it occurs. -/
def cutAt (c : Char) (cs : List Char) : List Char × Option (List Char) :=
  match Text.splitOnce c cs with
  | none => (cs, none)
  | some (before, after) => (before, some after)

/-- What stands before query and fragment, the query and the fragment. -/
def cutTail (cs : List Char) : List Char × Option (List Char) × Option (List Char) :=
  let (front, fragment) := cutAt '#' cs
  let (front, query) := cutAt '?' front
  (front, query, fragment)

/-- The scheme of a text, in lower case, and what follows its colon. -/
def scheme? (cs : List Char) : Option (String × List Char) :=
  match cutAt ':' cs with
  | (c :: name, some rest) =>
      if c.isAlpha && name.all fun d => d.isAlphanum || d == '+' || d == '-' || d == '.' then
        some (String.ofList ((c :: name).map Text.asciiLower), rest)
      else none
  | _ => none

/-- A text without the blanks and controls at its ends, and without tabs and line breaks. -/
def clean (s : String) : List Char :=
  let outer (c : Char) : Bool := c.toNat ≤ 0x20
  (((s.toList.dropWhile outer).reverse.dropWhile outer).reverse).filter fun c =>
    !(c == '\t' || c == '\n' || c == '\r')

/-! ## Authorities -/

variable [Idna]

/-- The part up to the last `@`, if there is one, and what follows it. -/
def cutUser (cs : List Char) : Option (List Char) × List Char :=
  match Text.splitOnce '@' cs.reverse with
  | none => (none, cs)
  | some (after, before) => (some before.reverse, after.reverse)

/-- The host at the front, up to a colon outside brackets, and the port after it. -/
def cutPort : Bool → List Char → List Char × Option (List Char)
  | _, [] => ([], none)
  | inside, c :: rest =>
      if c = ':' && !inside then ([], some rest)
      else
        let inside := if c = '[' then true else if c = ']' then false else inside
        let (host, port) := cutPort inside rest
        (c :: host, port)

/-- The number of a port; the usual port of the scheme is left out. -/
def portOf (scheme : String) (cs : List Char) : Except UrlError (Option Nat) :=
  if !cs.all Text.isDigit then .error .invalidPort
  else
    let n := Text.digitsValue cs
    if 65535 < n then .error .invalidPort
    else if cs.isEmpty || usualPort? scheme == some n then .ok none
    else .ok (some n)

/-- The user and password of an authority, as they are written. -/
def userOf (cs : List Char) : String × String :=
  let (user, password) := cutAt ':' cs
  (String.ofList (Text.Percent.encode plainInUser user),
    String.ofList (Text.Percent.encode plainInUser (password.getD [])))

/-- The authority of a text between the double slash and the path. The flag tells whether something
follows it. -/
def authorityOf (scheme : String) (followed : Bool) (cs : List Char) :
    Except UrlError Authority := do
  let special := isSpecial scheme
  let (user, rest) := cutUser cs
  if user == some [] && rest.isEmpty && followed then throw .emptyHost
  let (host, port) := cutPort false rest
  if host.isEmpty && special then throw .emptyHost
  let host ← if special then Host.read host else Host.readPlain host
  let (username, password) := userOf (user.getD [])
  if host == .domain "" then
    if port.isSome || username != "" || password != "" then throw .emptyHost
  let port ← match port with
    | none => pure none
    | some digits => portOf scheme digits
  return { username, password, host, port }

/-- The authority of a file: its host, if it has one. -/
def fileHost (cs : List Char) : Except UrlError Authority := do
  if cs.isEmpty then return { host := .domain "" }
  let host ← Host.read cs
  return { host := if host == .domain "localhost" then .domain "" else host }

/-! ## Reading -/

/-- The query and fragment of a URL, as they are written. -/
def withTail (scheme : String) (authority : Option Authority) (path : UrlPath)
    (query fragment : Option (List Char)) : Url where
  scheme := scheme
  authority := authority
  path := path
  query := query.map fun q =>
    String.ofList (Text.Percent.encode (plainInQuery (isSpecial scheme)) q)
  fragment := fragment.map fun f => String.ofList (Text.Percent.encode plainInFragment f)

/-- The authority and path of a text after a double slash. -/
def afterSlashes (scheme : String) (cs : List Char) : Except UrlError (Authority × UrlPath) := do
  let special := isSpecial scheme
  let before := cs.takeWhile fun c => !isSlash special c
  let after := cs.dropWhile fun c => !isSlash special c
  let authority ← authorityOf scheme (!after.isEmpty) before
  return (authority, pathAfterAuthority scheme after)

/-- The authority and path of a file. -/
def fileParts (cs : List Char) : Except UrlError (Authority × UrlPath) := do
  let none : Authority := { host := .domain "" }
  match cs with
  | a :: b :: rest =>
      if isSlash true a && isSlash true b then
        let host := rest.takeWhile fun c => !isSlash true c
        let after := rest.dropWhile fun c => !isSlash true c
        if isDrive host then return (none, pathAfterAuthority "file" rest)
        return (← fileHost host, pathAfterAuthority "file" after)
      else return (none, pathAfterAuthority "file" cs)
  | _ => return (none, pathAfterAuthority "file" cs)

/-- The URL of a text that has a scheme. -/
def afterScheme (scheme : String) (rest : List Char) : Except UrlError Url := do
  let (front, query, fragment) := cutTail rest
  if scheme == "file" then
    let (authority, path) ← fileParts front
    return withTail scheme (some authority) path query fragment
  else if isSpecial scheme then
    let cs := front.dropWhile (isSlash true)
    if cs.isEmpty then throw .emptyHost
    let (authority, path) ← afterSlashes scheme cs
    return withTail scheme (some authority) path query fragment
  else
    match front with
    | '/' :: '/' :: cs =>
        let followed := query.isSome || fragment.isSome
        if cs == ['@'] && followed then throw .emptyHost
        let (authority, path) ← afterSlashes scheme cs
        return withTail scheme (some authority) path query fragment
    | '/' :: cs => return withTail scheme none (.segments (segmentsOf scheme [] cs)) query fragment
    | cs =>
        return withTail scheme none
          (.plain (String.ofList (Text.Percent.encode (fun c => !Host.isControl c) cs))) query
          fragment

/-- The URL of a text. -/
def parse (s : String) : Except UrlError Url :=
  match scheme? (clean s) with
  | none => .error .relative
  | some (scheme, rest) => afterScheme scheme rest

/-! ## Writing -/

/-- The text of an authority. -/
def Authority.render (a : Authority) : String :=
  let user :=
    if a.username.isEmpty && a.password.isEmpty then ""
    else a.username ++ (if a.password.isEmpty then "" else ":" ++ a.password) ++ "@"
  let port := match a.port with
    | none => ""
    | some n => ":" ++ Text.decimal n
  user ++ a.host.render ++ port

/-- The text of a path. -/
def pathText (u : Url) : String :=
  match u.path with
  | .plain text => text
  | .segments parts => String.join (parts.map ("/" ++ ·))

/-- The text of a URL. -/
def render (u : Url) : String :=
  let authority := match u.authority with
    | some a => "//" ++ Authority.render a
    | none => if (u.pathText).startsWith "//" then "/." else ""
  let query := match u.query with
    | none => ""
    | some q => "?" ++ q
  let fragment := match u.fragment with
    | none => ""
    | some f => "#" ++ f
  u.scheme ++ ":" ++ authority ++ u.pathText ++ query ++ fragment

/-! ## Queries -/

/-- Append a pair to a query. -/
def appendPair (u : Url) (pair : String × String) : Url :=
  let addition := String.ofList (Form.encodePair pair)
  { u with query := some (match u.query with
    | none => addition
    | some q => if q.isEmpty then addition else q ++ "&" ++ addition) }

/-- Append pairs to a query. -/
def appendPairs (u : Url) (pairs : List (String × String)) : Url := pairs.foldl appendPair u

/-! ## Relative references -/

/-- The URL of a reference that has no scheme of its own. -/
def relativeTo (base : Url) (cs : List Char) : Except UrlError Url := do
  let special := isSpecial base.scheme
  let (front, query, fragment) := cutTail cs
  match base.path with
  | .plain _ =>
      if front.isEmpty && query.isNone && fragment.isSome then
        return { withTail base.scheme none base.path none fragment with query := base.query }
      else throw .relativeToPlain
  | .segments parts =>
      match front with
      | [] =>
          let url := withTail base.scheme base.authority base.path query fragment
          return if query.isSome then url else { url with query := base.query }
      | a :: rest =>
          if isSlash special a then
            match rest with
            | b :: more =>
                if isSlash special b then
                  let more := if special then more.dropWhile (isSlash true) else more
                  let (authority, path) ← afterSlashes base.scheme more
                  return withTail base.scheme (some authority) path query fragment
                else
                  return withTail base.scheme base.authority
                    (.segments (segmentsOf base.scheme [] rest)) query fragment
            | [] =>
                return withTail base.scheme base.authority
                  (.segments (segmentsOf base.scheme [] rest)) query fragment
          else
            return withTail base.scheme base.authority
              (.segments (segmentsOf base.scheme parts.dropLast front)) query fragment

/-- The URL that a reference leads to from a URL. -/
def join (base : Url) (reference : String) : Except UrlError Url :=
  let cs := clean reference
  match scheme? cs with
  | none => base.relativeTo cs
  | some (scheme, rest) =>
      if scheme == base.scheme && isSpecial scheme && scheme != "file" &&
          (rest.takeWhile (isSlash true)).length < 2 then
        base.relativeTo rest
      else afterScheme scheme rest

end Url

end Conformance
