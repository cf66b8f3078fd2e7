import Conformance.Text.Percent
import Conformance.Url.Idna

/-!
# Hosts

The host of a URL: a domain name, or an address of the fourth or sixth version. A name whose last
part is a number is read as an address.
-/

namespace Conformance

/-- Why a text is no URL. -/
inductive UrlError where
  /-- It has no scheme, and there is nothing that it could be relative to. -/
  | relative
  /-- The host is empty. -/
  | emptyHost
  /-- The port is no number or too large. -/
  | invalidPort
  /-- The host is no address of the fourth version, although it ends with a number. -/
  | invalidIpv4
  /-- The host in brackets is no address of the sixth version. -/
  | invalidIpv6
  /-- The host is no domain name. -/
  | invalidDomain
  /-- The host holds a character that no host may hold. -/
  | invalidHostCharacter
  /-- It is relative to a URL that nothing can be relative to. -/
  | relativeToPlain
  deriving DecidableEq, Repr

/-- The reason in words. -/
def UrlError.message : UrlError → String
  | .relative => "relative URL without a base"
  | .emptyHost => "empty host"
  | .invalidPort => "invalid port number"
  | .invalidIpv4 => "invalid IPv4 address"
  | .invalidIpv6 => "invalid IPv6 address"
  | .invalidDomain => "invalid international domain name"
  | .invalidHostCharacter => "invalid domain character"
  | .relativeToPlain => "relative URL with a cannot-be-a-base base"

/-- The host of a URL. -/
inductive Host where
  | domain (name : String)
  | ipv4 (address : Nat)
  /-- An address of eight numbers below `2 ^ 16`. -/
  | ipv6 (pieces : List Nat)
  deriving DecidableEq, Repr

namespace Host

/-! ## Addresses of the fourth version -/

/-- The base that a number is written in, and its digits. -/
def radix (part : List Char) : Nat × List Char :=
  match part with
  | '0' :: 'x' :: rest => (16, rest)
  | '0' :: 'X' :: rest => (16, rest)
  | '0' :: c :: rest => (8, c :: rest)
  | _ => (10, part)

/-- The number that a part of an address stands for, in octal after a zero and in hexadecimal after
`0x`. -/
def ipv4Number? (part : List Char) : Option Nat :=
  if part.isEmpty then none
  else
    let (base, digits) := radix part
    digits.foldl (fun n c =>
      match n, Text.hexValue? c with
      | some n, some d => if d < base then some (n * base + d) else none
      | _, _ => none) (some 0)

/-- Whether the last part of a name, an empty one apart, is a number. -/
def endsInNumber (name : List Char) : Bool :=
  let last := match (Text.splitOn '.' name).reverse with
    | [] :: part :: _ => part
    | part :: _ => part
    | [] => []
  (!last.isEmpty && last.all Text.isDigit) || (ipv4Number? last).isSome

/-- The address of numbers, of which the last fills up the address. -/
def ipv4OfNumbers? (numbers : List Nat) : Option Nat :=
  match numbers.reverse with
  | [] => none
  | last :: others =>
      if 4 ≤ others.length then none
      else if others.any (255 < ·) then none
      else if Nat.pow 256 (4 - others.length) ≤ last then none
      else some (others.reverse.zipIdx.foldl (fun n (d, i) => n + d * Nat.pow 256 (3 - i)) last)

/-- The address that a name stands for. -/
def ipv4? (name : List Char) : Option Nat :=
  let parts := Text.splitOn '.' name
  let parts := if parts.getLast? == some [] then parts.dropLast else parts
  match parts.mapM ipv4Number? with
  | none => none
  | some numbers => ipv4OfNumbers? numbers

/-! ## Addresses of the sixth version -/

/-- A number of up to four hexadecimal digits at the front, how many digits it has, and the rest. -/
def piece : Nat → List Char → Nat × Nat × List Char
  | 0, cs => (0, 0, cs)
  | n + 1, cs =>
      let rec go (value count : Nat) : Nat → List Char → Nat × Nat × List Char
        | 0, cs => (value, count, cs)
        | _, [] => (value, count, [])
        | left + 1, c :: rest =>
            match Text.hexValue? c with
            | some d => go (value * 16 + d) (count + 1) left rest
            | none => (value, count, c :: rest)
      go 0 0 (n + 1) cs

/-- The two pieces that four decimal numbers stand for. -/
def dottedPieces? (cs : List Char) : Option (List Nat) :=
  let number? (part : List Char) : Option Nat :=
    match Text.readDecimal? part with
    | some n => if n ≤ 255 && (part.length == 1 || part.head? != some '0') then some n else none
    | none => none
  match (Text.splitOn '.' cs).mapM number? with
  | some [a, b, c, d] => some [a * 256 + b, c * 256 + d]
  | _ => none

/-- The pieces of an address, last first, and where a gap stands among them. The first argument
bounds the number of pieces. -/
def pieces? : Nat → List Char → List Nat → Option Nat → Option (List Nat × Option Nat)
  | 0, _, _, _ => none
  | _, [], done, gap => some (done, gap)
  | fuel + 1, cs, done, gap =>
      let size := done.length + if gap.isSome then 1 else 0
      if 8 ≤ size then none
      else
        match cs with
        | ':' :: rest => if gap.isSome then none else pieces? fuel rest done (some done.length)
        | _ =>
            let (value, count, rest) := piece 4 cs
            match rest with
            | [] => some (value :: done, gap)
            | '.' :: _ =>
                if count = 0 || 6 < size then none
                else (dottedPieces? cs).map fun ps => (ps.reverse ++ done, gap)
            | ':' :: rest => if rest.isEmpty then none else pieces? fuel rest (value :: done) gap
            | _ => none

/-- The address between brackets. -/
def ipv6? (cs : List Char) : Option (List Nat) :=
  let found := match cs with
    | ':' :: ':' :: rest => pieces? 12 rest [] (some 0)
    | ':' :: _ => none
    | [] => none
    | [_] => none
    | _ => pieces? 12 cs [] none
  match found with
  | none => none
  | some (done, gap) =>
      let pieces := done.reverse
      match gap with
      | some k => some (pieces.take k ++ List.replicate (8 - pieces.length) 0 ++ pieces.drop k)
      | none => if pieces.length = 8 then some pieces else none

/-! ## Names -/

/-- Whether no domain name may hold `c`. -/
def isForbidden (c : Char) : Bool :=
  c.toNat ≤ 0x20 || c.toNat == 0x7F ||
    ['%', '#', '/', ':', '<', '>', '?', '@', '[', '\\', ']', '^', '|'].contains c

variable [Idna]

/-- The domain name of a text, in ASCII, after percent decoding. -/
def domain? (cs : List Char) : Option (List Char) := do
  let name ← Text.Utf8.decode? (Text.Percent.decode cs)
  let form ← Idna.toAscii? name
  if form.any isForbidden then none else some form

/-- The address of a host in brackets. -/
def bracketed? (cs : List Char) : Except UrlError Host :=
  if cs.getLast? == some ']' then
    match ipv6? cs.tail.dropLast with
    | some pieces => .ok (.ipv6 pieces)
    | none => .error .invalidIpv6
  else .error .invalidIpv6

/-- The host of a URL with a scheme of the web. -/
def read (cs : List Char) : Except UrlError Host :=
  if cs.head? == some '[' then bracketed? cs
  else
    match domain? cs with
    | none => .error .invalidDomain
    | some name =>
        if name.isEmpty then .error .emptyHost
        else if endsInNumber name then
          match ipv4? name with
          | some address => .ok (.ipv4 address)
          | none => .error .invalidIpv4
        else .ok (.domain (String.ofList name))

/-- Whether `c` is a control or no ASCII character. -/
def isControl (c : Char) : Bool := c.toNat < 0x20 || 0x7F ≤ c.toNat

/-- The host of a URL with any other scheme. -/
def readPlain (cs : List Char) : Except UrlError Host :=
  if cs.head? == some '[' then bracketed? cs
  else if cs.any fun c => c.toNat == 0 || c == '\t' || c == '\n' || c == '\r' || c == ' ' ||
      ['#', '/', ':', '<', '>', '?', '@', '[', '\\', ']', '^', '|'].contains c then
    .error .invalidHostCharacter
  else .ok (.domain (String.ofList (Text.Percent.encode (fun c => !isControl c) cs)))

/-! ## Writing -/

/-- The start and length of the first of the longest runs of zeros. -/
def longestZeros (pieces : List Nat) : Nat × Nat :=
  let runs := (List.range pieces.length).map fun i =>
    (i, ((pieces.drop i).takeWhile (· == 0)).length)
  runs.foldl (fun best r => if best.2 < r.2 then r else best) (0, 0)

/-- Pieces in hexadecimal with colons between them. -/
def hexPieces (pieces : List Nat) : List Char :=
  [':'].intercalate (pieces.map Text.hexDigits)

/-- The text of a host. -/
def render : Host → String
  | .domain name => name
  | .ipv4 address =>
      ".".intercalate ([3, 2, 1, 0].map fun i => Text.decimal (address / Nat.pow 256 i % 256))
  | .ipv6 pieces =>
      let (start, count) := longestZeros pieces
      let body :=
        if count < 2 then hexPieces pieces
        else hexPieces (pieces.take start) ++ [':', ':'] ++ hexPieces (pieces.drop (start + count))
      "[" ++ String.ofList body ++ "]"

end Host

end Conformance
