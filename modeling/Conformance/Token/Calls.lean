import Conformance.Token.Store

/-!
# Calls on token stores

A store that is changed in place. A call to place a need is carried out step by step, and what it has
done to the store by the time it fails would stay. Names and places are asked for in any order, and one
counter serves both.
-/

namespace Conformance

namespace TokenStore

/-! ## Calls -/

/-- The slot of a need: that of the first group it may join, or else that of a group of its own. -/
def slot (s : TokenStore) (n : PermissionNeed) : Nat := s.groups.findIdx (joins n)

/-- What is done to a store in place: it has an answer or fails, and leaves a store in both cases. -/
abbrev Call (α : Type) := ExceptT PermissionError (StateM TokenStore) α

/-- Carry out a call on a store: what comes of it, and the store afterwards. -/
def Call.on {α : Type} (call : Call α) (s : TokenStore) : Except PermissionError α × TokenStore :=
  (ExceptT.run call).run s

/-- Make the next name. -/
def takeName : Call String := modifyGet nextName

/-- Fail for a need that contradicts itself. -/
def refuseConflict (n : PermissionNeed) : Call Unit :=
  unless n.conflicts.isEmpty do throw (.selfConflict n.id n.conflicts)

/-- Start a group for a need, under the next name. -/
def startGroup (n : PermissionNeed) : Call Unit := do
  let name ← takeName
  modify fun s => { s with groups := s.groups ++ [TokenGroup.absorb ⟨name, [], [], []⟩ n] }

/-- Place a need: in the first group that it may join, or else in a group of its own. -/
def submit (n : PermissionNeed) : Call Unit := do
  refuseConflict n
  let s ← get
  match s.groups[s.slot n]? with
  | some g => set { s with groups := s.groups.set (s.slot n) (g.absorb n) }
  | none => startGroup n

/-- Place needs one after the other, whatever comes of the ones before: what comes of each, and the
store in the end. -/
def submitEach : List PermissionNeed → TokenStore → List (Except PermissionError Unit) × TokenStore
  | [], s => ([], s)
  | n :: rest, s =>
      let (answer, s) := (submit n).on s
      let (answers, s) := submitEach rest s
      (answer :: answers, s)

/-! ## Requests -/

/-- What a store is asked for. -/
inductive Request where
  /-- A name. -/
  | name
  /-- A place for a need. -/
  | place (n : PermissionNeed)

/-- Meet a request in place: the names that are made for it, and the store afterwards. Those that are
made for a need are the names of the groups that come behind the others. -/
def serve (s : TokenStore) : Request → List String × TokenStore
  | .name => ([s.nextName.1], s.nextName.2)
  | .place n =>
      let after := ((submit n).on s).2
      ((after.groups.drop s.groups.length).map TokenGroup.name, after)

/-- Meet requests one after the other: the names that are made for all of them, as they were made, and
the store in the end. -/
def serveAll : List Request → TokenStore → List String × TokenStore
  | [], s => ([], s)
  | r :: rest, s =>
      let (names, s) := s.serve r
      let (more, s) := serveAll rest s
      (names ++ more, s)

/-- The names of the groups, in the order in which the groups were started. -/
def groupNames (s : TokenStore) : List String := s.groups.map TokenGroup.name

end TokenStore

end Conformance
