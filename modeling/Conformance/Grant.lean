import Conformance.Json.Draft

/-!
# Grants

What a token endpoint gives for an authorisation code, and what it answers when it refuses one.
-/

namespace Conformance

/-- A granted token. -/
structure GrantToken where
  /-- The access token. -/
  accessToken : String
  /-- Its type. -/
  tokenType : String := ""
  /-- The seconds for which it is valid. -/
  expiresIn : Option UInt64 := none
  /-- What it gives access to. -/
  scope : Option String := none
  /-- The token that tells who authorised it. -/
  idToken : Option String := none
  deriving DecidableEq, Repr, Inhabited

namespace GrantToken

/-- A granted token as a document. -/
def toJson (t : GrantToken) : Json :=
  .object [("access_token", .string t.accessToken), ("token_type", .string t.tokenType),
    ("expires_in", .ofOption (.nat ·.toNat) t.expiresIn), ("scope", .ofOption .string t.scope),
    ("id_token", .ofOption .string t.idToken)]

/-- The fields of a granted token in a document. -/
def fields : List Json.Draft.Field :=
  [.required "access_token", .defaulted "token_type", .defaulted "expires_in", .defaulted "scope",
    .defaulted "id_token"]

/-- Take in one field. -/
def setField : Json.Draft.Setter GrantToken := fun name depth d t =>
  match name with
  | "access_token" => return { t with accessToken := ← d.text depth }
  | "token_type" => return { t with tokenType := ← d.text depth }
  | "expires_in" => return { t with
      expiresIn := ← Json.Draft.nullable Json.Draft.uint64 depth d }
  | "scope" => return { t with scope := ← Json.Draft.nullable Json.Draft.text depth d }
  | _ => return { t with idToken := ← Json.Draft.nullable Json.Draft.text depth d }

/-- A granted token of a document. -/
def reader : Json.Draft.Reader GrantToken :=
  Json.Draft.record fields { accessToken := "" } setField

end GrantToken

/-- Why a token endpoint refuses to grant a token. -/
structure GrantRefusal where
  /-- The code of the reason. -/
  code : String
  /-- The reason in words. -/
  description : Option String := none
  deriving DecidableEq, Repr, Inhabited

namespace GrantRefusal

/-- A refusal in one text. -/
def message (r : GrantRefusal) : String :=
  match r.description with
  | none => r.code
  | some d => r.code ++ " - " ++ d

/-- A refusal of a document. -/
def reader : Json.Draft.Reader GrantRefusal :=
  Json.Draft.record [.required "error", .optional "error_description"] { code := "" }
    fun name depth d r =>
      match name with
      | "error" => return { r with code := ← d.text depth }
      | _ => return { r with
          description := ← Json.Draft.nullable Json.Draft.text depth d }

end GrantRefusal

end Conformance
