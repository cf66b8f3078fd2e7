import Conformance.Json.Draft
import Conformance.KeyMap

/-!
# Consent items

The outcome of one consent flow, as the flow reports it: the consent that it obtained for its token,
or why it failed.
-/

namespace Conformance

/-- The outcome of one consent flow. -/
structure ConsentItem where
  /-- The name of the token. -/
  tokenName : String
  /-- The URL at which the consent is authorised. -/
  consentUrl : String := ""
  /-- The identifier of the consent. -/
  consentId : String := ""
  /-- The permissions that were asked for, as a list of quoted codes. -/
  permissions : String := ""
  /-- The token with which the client created the consent. -/
  clientAccessToken : String := ""
  /-- Why the flow failed; nothing else counts then. -/
  error : String := ""
  deriving DecidableEq, Repr, Inhabited

namespace ConsentItem

/-- The item of a flow that has not begun. -/
def new (tokenName permissions : String) : ConsentItem := { tokenName, permissions }

/-- Whether the flow failed. -/
def isError (i : ConsentItem) : Bool := !i.error.isEmpty

/-- The failure of the flow, with the name of its token. -/
def failure (i : ConsentItem) : String := i.tokenName ++ ": " ++ i.error

/-- The item of a flow that failed. -/
def failed (i : ConsentItem) (reason : String) : ConsentItem := { i with error := reason }

/-- An item as a document. -/
def toJson (i : ConsentItem) : Json :=
  .object ([("tokenName", .string i.tokenName)] ++ Json.unlessBlank "consentUrl" i.consentUrl ++
    Json.unlessBlank "consentId" i.consentId ++ [("permissions", .string i.permissions)] ++
    Json.unlessBlank "clientAccessToken" i.clientAccessToken ++ Json.unlessBlank "error" i.error)

/-- The fields of an item in a document. -/
def fields : List Json.Draft.Field :=
  [.required "tokenName", .defaulted "consentUrl", .defaulted "consentId",
    .defaulted "permissions", .defaulted "clientAccessToken", .defaulted "error"]

/-- Take in one field. -/
def setField : Json.Draft.Setter ConsentItem := fun name depth d i =>
  match name with
  | "tokenName" => return { i with tokenName := ← d.text depth }
  | "consentUrl" => return { i with consentUrl := ← d.text depth }
  | "consentId" => return { i with consentId := ← d.text depth }
  | "permissions" => return { i with permissions := ← d.text depth }
  | "clientAccessToken" => return { i with clientAccessToken := ← d.text depth }
  | _ => return { i with error := ← d.text depth }

/-- An item of a document. -/
def reader : Json.Draft.Reader ConsentItem := Json.Draft.record fields { tokenName := "" } setField

end ConsentItem

end Conformance
