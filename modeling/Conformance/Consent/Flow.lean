import Conformance.Component.Providers
import Conformance.Consent.Item
import Conformance.Run
import Conformance.Runner

/-!
# Consent flows

Obtaining the consent of one token: a component is run with the name and permissions of the token,
and the values that it leaves in its context make the item that the flow reports.
-/

namespace Conformance

/-! ## Names -/

/-- The name that holds the name under which the consent is kept. -/
def Context.consentIdName : String := "consent_id"

/-- The name that holds the name of the token. -/
def Context.tokenName : String := "token_name"

/-- The name that holds the permissions of the token. -/
def Context.permissionListName : String := "permission_list"

/-- The name that holds the token of the client. -/
def Context.clientTokenName : String := "client_access_token"

/-! ## Flows -/

/-- A flow that has been set up. -/
structure ConsentFlow where
  /-- The component, expanded with the context. -/
  component : Component
  /-- What the flow will report. -/
  item : ConsentItem
  /-- The context of the flow. -/
  ctx : Context

namespace ConsentFlow

/-- The context of the flow for one token. -/
def context (d : RunDefinition) (item : ConsentItem) (ctx : Context) : Context :=
  (((d.privateContext ctx).putText Context.consentIdName item.tokenName).putText
    Context.tokenName item.tokenName).putText Context.permissionListName item.permissions

/-- Set up the flow for one token with a component. -/
def ofComponent (c : Component) (item : ConsentItem) (ctx : Context) :
    Except ComponentError ConsentFlow := do
  c.checkInputs ctx
  let component ← c.expand ctx
  return ⟨component, item, ctx⟩

/-- Set up the flow for one token on a runner, which is left as it was if that fails. -/
def begin (runner : Runner) (d : RunDefinition) (item : ConsentItem) (ctx : Context)
    (acquisition : Acquisition) : Except StartError (ConsentFlow × Runner) := do
  let runner ← runner.acquire
  match ofComponent acquisition.component item (context d item ctx) with
  | .ok flow => return (flow, runner)
  | .error e => throw (.component e)

/-- The walk over the steps of a flow. -/
def walk (f : ConsentFlow) : Walk := Walk.start true f.ctx f.component.tests

/-! ## Reporting -/

/-- The reason of a flow that was asked to stop. -/
def stoppedReason : String := "consent acquisition stopped"

/-- The reason of a flow that failed at a step. -/
def failedReason (f : ConsentFlow) (test : TestCase) (result : TestResult) : String :=
  f.component.name ++ " " ++ test.name ++ ": " ++ result.firstError?.getD "step failed"

/-- The text that a name holds, or another one. -/
def textOr (ctx : Context) (name other : String) : String :=
  match ctx.getText name with
  | .ok s => s
  | .error _ => other

/-- The item of a flow that has come to its end, with the values that its context holds then. -/
def obtained (f : ConsentFlow) (ctx : Context) : ConsentItem :=
  { f.item with
    consentUrl := textOr ctx Context.consentUrlName f.item.consentUrl
    consentId := textOr ctx f.item.tokenName f.item.consentId
    clientAccessToken := textOr ctx Context.clientTokenName f.item.clientAccessToken }

/-- The item that a flow reports when its walk has ended. -/
def report (f : ConsentFlow) (ctx : Context) : Walk.Ending → ConsentItem
  | .completed => f.obtained ctx
  | .stopped => f.item.failed stoppedReason
  | .failed test result => f.item.failed (f.failedReason test result)

end ConsentFlow

end Conformance
