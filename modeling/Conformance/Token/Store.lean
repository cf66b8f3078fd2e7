import Conformance.Token.Requirement

/-!
# Token stores

Grouping test cases so that each group can share one token. Groups stay in the order in which they
were made. A test case joins the first group whose codes do not clash with its own, in either
direction; one without codes joins the first group that still has none; and where there is no such
group it starts a new one. The number of groups need not be the least possible.
-/

namespace Conformance

/-- A group of test cases that share a token. -/
structure TokenGroup where
  /-- The name of the token. -/
  name : String
  /-- The identifiers of the test cases, in the order in which they joined. -/
  ids : List String
  /-- The codes that some member requires, in order and each once. -/
  required : List String
  /-- The codes that some member excludes, in order and each once. -/
  excluded : List String
  deriving DecidableEq, Repr, Inhabited

/-- Groups, and a counter of the names made so far. -/
structure TokenStore where
  /-- What every name begins with. -/
  stem : String
  /-- How many names have been made, in a word of 32 bits. -/
  made : UInt32
  /-- The groups, in the order in which they were made. -/
  groups : List TokenGroup
  deriving DecidableEq, Repr, Inhabited

namespace TokenGroup

/-- Add a code to an ordered list that holds each code once. -/
def insertCode (code : String) : List String → List String
  | [] => [code]
  | c :: rest =>
      if code < c then code :: c :: rest
      else if code = c then c :: rest
      else c :: insertCode code rest

/-- Add the codes that are not empty. -/
def insertCodes (codes known : List String) : List String :=
  codes.foldl (fun known c => if c = "" then known else insertCode c known) known

/-- Whether no member's codes clash with those of `n`. -/
def accepts (g : TokenGroup) (n : PermissionNeed) : Bool :=
  !(g.required.any n.excluded.contains) && !(g.excluded.any n.required.contains)

/-- Whether no member has declared a code. -/
def isUnrestricted (g : TokenGroup) : Bool := g.required.isEmpty && g.excluded.isEmpty

/-- The group with one more member. -/
def absorb (g : TokenGroup) (n : PermissionNeed) : TokenGroup :=
  { g with
    ids := g.ids ++ [n.id]
    required := insertCodes n.required g.required
    excluded := insertCodes n.excluded g.excluded }

/-- The token that the group needs. -/
def requirement (g : TokenGroup) : TokenRequirement :=
  { name := g.name, ids := g.ids, required := g.required, excluded := g.excluded }

end TokenGroup

namespace TokenStore

/-- A store without groups. -/
def new (stem : String) : TokenStore := ⟨stem, 0, []⟩

/-- The name with a number: the stem, `Token`, and the number in at least four digits. -/
def tokenName (stem : String) (number : Nat) : String :=
  stem ++ "Token" ++ Text.paddedDecimal 4 number

/-- Make the next name. -/
def nextName (s : TokenStore) : String × TokenStore :=
  (tokenName s.stem (s.made + 1).toNat, { s with made := s.made + 1 })

/-- Start a group for a test case. -/
def create (s : TokenStore) (n : PermissionNeed) : TokenStore :=
  let (name, s) := s.nextName
  { s with groups := s.groups ++ [TokenGroup.absorb ⟨name, [], [], []⟩ n] }

/-- Whether a test case may join a group: one without codes only joins a group without codes. -/
def joins (n : PermissionNeed) (g : TokenGroup) : Bool :=
  if n.isUnrestricted then g.isUnrestricted else g.accepts n

/-- Let a test case join the first group that it may join, if there is one. -/
def join? (n : PermissionNeed) : List TokenGroup → Option (List TokenGroup)
  | [] => none
  | g :: rest => if joins n g then some (g.absorb n :: rest) else (join? n rest).map (g :: ·)

/-- Place a test case that does not contradict itself. -/
def place (s : TokenStore) (n : PermissionNeed) : TokenStore :=
  match join? n s.groups with
  | some groups => { s with groups := groups }
  | none => s.create n

/-- Place a test case, unless it requires and excludes the same code. -/
def add (s : TokenStore) (n : PermissionNeed) : Except PermissionError TokenStore :=
  if n.conflicts.isEmpty then .ok (s.place n) else .error (.selfConflict n.id n.conflicts)

/-- Place test cases in order, up to the first that contradicts itself. -/
def addAll (s : TokenStore) : List PermissionNeed → Except PermissionError TokenStore
  | [] => .ok s
  | n :: rest =>
      match s.add n with
      | .error e => .error e
      | .ok s => s.addAll rest

/-- The tokens that the groups need. -/
def requirements (s : TokenStore) : List TokenRequirement := s.groups.map TokenGroup.requirement

/-- Group test cases into tokens whose names begin with the given stem. -/
def resolve (stem : String) (needs : List PermissionNeed) :
    Except PermissionError (List TokenRequirement) :=
  match (new stem).addAll needs with
  | .error e => .error e
  | .ok s => .ok s.requirements

end TokenStore

end Conformance
