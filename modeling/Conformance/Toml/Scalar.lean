import Conformance.Toml

/-!
# TOML numbers and dates

Whole numbers in four bases, which must fit 64 bits with a sign, floating-point numbers, and dates
and times of the Gregorian calendar.
-/

namespace Conformance.Toml

/-- What reads a value at the front of a text, and what follows it. -/
abbrev Scan (α : Type) := List Char → Option (α × List Char)

/-! ## Digits -/

/-- One or more digits, with single underscores between them; the digits alone are kept. -/
def digits (isDigit : Char → Bool) : Scan (List Char)
  | [] => none
  | c :: rest =>
      if isDigit c then
        match rest with
        | '_' :: rest => (digits isDigit rest).map fun (ds, after) => (c :: ds, after)
        | rest =>
            match digits isDigit rest with
            | some (ds, after) => some (c :: ds, after)
            | none => some ([c], rest)
      else none

/-- A sign, and whether it is negative. -/
def sign : List Char → Bool × List Char
  | '-' :: rest => (true, rest)
  | '+' :: rest => (false, rest)
  | rest => (false, rest)

/-- The digits of a decimal number, of which only the number zero begins with a zero. -/
def wholeDigits : Scan (List Char)
  | '0' :: rest => some (['0'], rest)
  | cs => digits Text.isDigit cs

/-! ## Numbers -/

/-- A number that fits 64 bits with a sign. -/
def fitting (n : Int) : Option Int :=
  if -0x8000000000000000 ≤ n ∧ n < 0x8000000000000000 then some n else none

/-- The number of digits in a base. -/
def based (base : Nat) (cs : List Char) : Option (Int × List Char) := do
  let isDigit (c : Char) : Bool := ((Text.hexValue? c).map (decide <| · < base)).getD false
  let (ds, rest) ← digits isDigit cs
  let n := ds.foldl (fun n c => n * base + (Text.hexValue? c).getD 0) 0
  return (← fitting n, rest)

/-- A whole number. -/
def scanInteger : Scan Int
  | '0' :: 'x' :: rest => based 16 rest
  | '0' :: 'o' :: rest => based 8 rest
  | '0' :: 'b' :: rest => based 2 rest
  | cs => do
      let (negative, cs) := sign cs
      let (ds, rest) ← wholeDigits cs
      let n : Int := Text.digitsValue ds
      return (← fitting (if negative then -n else n), rest)

/-- The number that digits stand for whose last `places` ones are a fraction, with an exponent,
unless it is too large. -/
def scaled? (negative : Bool) (ds : List Char) (places : Nat) (exponent : Int) :
    Option Binary64 :=
  let n := Text.digitsValue ds
  let exponent := exponent - places
  if n = 0 ∨ ds.length + exponent < -400 then some (.zero negative)
  else if 400 < exponent then none
  else Binary64.ofRatio? negative (n * Nat.pow 10 exponent.toNat) (Nat.pow 10 (-exponent).toNat)

/-- The fraction of a number. -/
def fraction : Scan (List Char)
  | '.' :: rest => digits Text.isDigit rest
  | _ => none

/-- The exponent of a number. -/
def exponent : Scan Int
  | c :: rest =>
      if c = 'e' ∨ c = 'E' then do
        let (negative, rest) := sign rest
        let (ds, rest) ← digits Text.isDigit rest
        let n : Int := Text.digitsValue ds
        return (if negative then -n else n, rest)
      else none
  | [] => none

/-- A number with a fraction or an exponent; of those too large only negative ones are allowed. -/
def decimalFloat (cs : List Char) : Option (Option Binary64 × List Char) := do
  let (negative, cs) := sign cs
  let (whole, rest) ← wholeDigits cs
  let (places, rest) ← match fraction rest with
    | some (ds, rest) => some (some ds, rest)
    | none => some (none, rest)
  let (power, rest) ← match exponent rest with
    | some (n, rest) => some (some n, rest)
    | none => some (none, rest)
  if places.isNone && power.isNone then none
  let x := scaled? negative (whole ++ places.getD []) (places.getD []).length (power.getD 0)
  if x.isNone && !negative then none else return (x, rest)

/-- A number that is not finite. -/
def specialFloat (cs : List Char) : Option (Option Binary64 × List Char) :=
  match (sign cs).2 with
  | 'i' :: 'n' :: 'f' :: rest => some (none, rest)
  | 'n' :: 'a' :: 'n' :: rest => some (none, rest)
  | _ => none

/-! ## Dates and times -/

/-- A number of a fixed count of digits within bounds. -/
def fixedNumber (count least greatest : Nat) (cs : List Char) : Option (Nat × List Char) :=
  let ds := cs.take count
  let n := Text.digitsValue ds
  if ds.length = count ∧ ds.all Text.isDigit ∧ least ≤ n ∧ n ≤ greatest then
    some (n, cs.drop count)
  else none

/-- What follows a character. -/
def expect (c : Char) : List Char → Option (List Char)
  | d :: rest => if d = c then some rest else none
  | [] => none

/-- The number of days of a month. -/
def daysIn (year month : Nat) : Nat :=
  if month = 2 then
    if year % 4 = 0 ∧ (year % 100 ≠ 0 ∨ year % 400 = 0) then 29 else 28
  else if month = 4 ∨ month = 6 ∨ month = 9 ∨ month = 11 then 30
  else 31

/-- What follows a date. -/
def afterDate? (cs : List Char) : Option (List Char) := do
  let (year, cs) ← fixedNumber 4 0 9999 cs
  let (month, cs) ← fixedNumber 2 1 12 (← expect '-' cs)
  let (_, cs) ← fixedNumber 2 1 (daysIn year month) (← expect '-' cs)
  return cs

/-- What follows a time of the day. -/
def afterTime? (cs : List Char) : Option (List Char) := do
  let (_, cs) ← fixedNumber 2 0 23 cs
  let (_, cs) ← fixedNumber 2 0 59 (← expect ':' cs)
  let (_, cs) ← fixedNumber 2 0 60 (← expect ':' cs)
  match cs with
  | '.' :: rest =>
      let after := rest.dropWhile Text.isDigit
      if after.length < rest.length then return after else return cs
  | cs => return cs

/-- What follows the offset of a time zone. -/
def afterOffset? : List Char → Option (List Char)
  | 'Z' :: rest => some rest
  | 'z' :: rest => some rest
  | c :: rest =>
      if c = '+' ∨ c = '-' then do
        let (_, rest) ← fixedNumber 2 0 23 rest
        let (_, rest) ← fixedNumber 2 0 59 (← expect ':' rest)
        return rest
      else none
  | [] => none

/-- What follows the time of a date, with or without an offset. -/
def afterTimeOfDate? : List Char → Option (List Char)
  | c :: rest =>
      if c = 'T' ∨ c = 't' ∨ c = ' ' then
        (afterTime? rest).map fun rest => (afterOffset? rest).getD rest
      else none
  | [] => none

/-- A date, a time of the day or both. -/
def scanDatetime (cs : List Char) : Option (String × List Char) := do
  let rest ← match afterDate? cs with
    | some rest => some ((afterTimeOfDate? rest).getD rest)
    | none => afterTime? cs
  return (String.ofList (cs.take (cs.length - rest.length)), rest)

/-- A number or date. -/
def numeral (cs : List Char) : Option (Toml × List Char) :=
  match scanDatetime cs with
  | some (text, rest) => some (.datetime text, rest)
  | none =>
      match (decimalFloat cs).or (specialFloat cs) with
      | some (x, rest) => some (.float x, rest)
      | none => (scanInteger cs).map fun (n, rest) => (.integer n, rest)

end Conformance.Toml
