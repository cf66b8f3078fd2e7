import Conformance.Consent.Flow
import Conformance.Consent.Wait
import Conformance.Token.Requirement
import Conformance.Token.Store

/-!
# Acquiring consents

One consent flow for every token of an accounts specification that has permissions, and the values
that the acquired consents give to the shared context. The consents of payments are made by their
own test cases.
-/

namespace Conformance.Acquisition

/-- The items of the tokens that need a consent. -/
def wanted (specs : List SpecTokens) : List ConsentItem :=
  (specs.filter fun s => s.specType == .accounts).flatMap fun s =>
    (s.tokens.filter fun t => !t.isUnrestricted).map fun t =>
      ConsentItem.new t.name (permissionList t.required)

/-- Set up flows, each on a runner of its own, up to the first that does not start. -/
def dispatch (d : RunDefinition) (ctx : Context) :
    List ConsentItem → List ConsentFlow × Option StartError
  | [] => ([], none)
  | item :: rest =>
      match ConsentFlow.begin Runner.forConsent d item ctx d.settings.acquisition with
      | .error e => ([], some e)
      | .ok (flow, _) =>
          let (flows, error) := dispatch d ctx rest
          (flow :: flows, error)

/-- Keep an acquired consent under the name of its token, and the token of the client. -/
def keep (ctx : Context) (item : ConsentItem) : Context :=
  let ctx := ctx.putText item.tokenName item.consentId
  if item.clientAccessToken = "" then ctx
  else ctx.putText Context.clientTokenName item.clientAccessToken

/-- The shared context after an acquisition: acquired consents are kept in the order in which they
arrived, and a failed acquisition changes nothing. -/
def conclude (ctx : Context) : Except ConsentError (List ConsentItem) → Context
  | .ok items => items.foldl keep ctx
  | .error _ => ctx

end Conformance.Acquisition
