/-!
# Tagged binary values

The distinguished encoding of structured values: each is a tag, a length and so many bytes, which for
a sequence or set are values again. Only what key material is made of is told apart.
-/

namespace Conformance

/-- A tagged value. -/
inductive Der where
  | integer (bytes : List UInt8)
  | bitString (bytes : List UInt8)
  | octetString (bytes : List UInt8)
  | objectId (bytes : List UInt8)
  | sequence (items : List Der)
  /-- A set, or a value with a tag of its own around it. -/
  | wrapped (items : List Der)
  | other

namespace Der

/-- The length at the front of bytes, and what follows it. A first byte from 128 on tells how many
bytes the length has. -/
def length? : List UInt8 → Option (Nat × List UInt8)
  | [] => none
  | b :: rest =>
      let n := b.toNat
      if n < 0x80 then some (n, rest)
      else
        let count := n - 0x80
        if count = 0 || 8 < count || rest.length < count then none
        else some ((rest.take count).foldl (fun v c => v * 256 + c.toNat) 0, rest.drop count)

/-- What follows a tag, whose number may go on over several bytes. -/
def afterTag? (first : UInt8) (rest : List UInt8) : Option (List UInt8) :=
  if first.toNat % 32 = 31 then
    match rest.dropWhile fun b => 0x80 ≤ b.toNat with
    | [] => none
    | _ :: rest => some rest
  else some rest

mutual

/-- The values that bytes consist of; there is at least one. The first argument bounds the number of
steps. -/
def parseAll : Nat → List UInt8 → Option (List Der)
  | 0, _ => none
  | fuel + 1, bytes =>
      match parseOne fuel bytes with
      | none => none
      | some (v, []) => some [v]
      | some (v, rest) => (parseAll fuel rest).map (v :: ·)

/-- The value at the front of bytes, and what follows it. -/
def parseOne : Nat → List UInt8 → Option (Der × List UInt8)
  | 0, _ => none
  | _, [] => none
  | fuel + 1, tag :: rest => do
      let rest ← afterTag? tag rest
      let (size, rest) ← length? rest
      if rest.length < size then none
      let body := rest.take size
      let after := rest.drop size
      if 0x40 ≤ tag.toNat then
        if tag.toNat / 32 % 2 = 1 then
          match parseAll fuel body with
          | some [v] => return (.wrapped [v], after)
          | _ => return (.other, after)
        else return (.other, after)
      else
        match tag.toNat % 32 with
        | 1 => if size = 1 then return (.other, after) else none
        | 2 => return (.integer body, after)
        | 3 => return (.bitString (body.drop 1), after)
        | 4 => return (.octetString body, after)
        | 6 => if body.isEmpty then none else return (.objectId body, after)
        | 16 => return (.sequence (← parseAll fuel body), after)
        | 17 => return (.wrapped (← parseAll fuel body), after)
        | _ => return (.other, after)

end

/-- The values that bytes consist of. -/
def parse? (bytes : List UInt8) : Option (List Der) := parseAll (2 * bytes.length + 2) bytes

mutual

/-- The first object identifier of a value for which `p` holds, looking into sequences only. -/
def findId? (p : List UInt8 → Bool) : Der → Option (List UInt8)
  | .objectId bytes => if p bytes then some bytes else none
  | .sequence items => findIdIn? p items
  | _ => none

/-- The first object identifier of values for which `p` holds. -/
def findIdIn? (p : List UInt8 → Bool) : List Der → Option (List UInt8)
  | [] => none
  | v :: rest => (findId? p v).or (findIdIn? p rest)

end

mutual

/-- The first string of bits or bytes of a value, looking into sequences only. -/
def firstString? : Der → Option (List UInt8)
  | .bitString bytes => some bytes
  | .octetString bytes => some bytes
  | .sequence items => firstStringIn? items
  | _ => none

/-- The first string of bits or bytes of values. -/
def firstStringIn? : List Der → Option (List UInt8)
  | [] => none
  | v :: rest => (firstString? v).or (firstStringIn? rest)

end

end Der

end Conformance
