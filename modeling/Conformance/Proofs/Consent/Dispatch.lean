import Conformance.Proofs.Consent.Acquisition
import Conformance.Rehearsal

/-!
# Starting flows

Flows are set up one after the other, and the first that is refused ends the acquisition.
`ends_starts_all_or_none`: the first flow is refused or none is. A refused acquisition leaves nothing
running and names exactly what the component lacks.

A flow is refused only for the names that its context does not set, and the contexts of all flows of
an acquisition set the same names (`contains_context`): what the flow of one token adds, that of
another adds too.
-/

namespace Conformance.Acquisition

variable {d : RunDefinition} {ctx : Context}

/-! ## What a flow lacks -/

/-- The contexts of two flows differ in what some names hold, and not in which names are set. -/
theorem contains_context (d : RunDefinition) (ctx : Context) (i j : ConsentItem) (key : String) :
    (ConsentFlow.context d i ctx).contains key = (ConsentFlow.context d j ctx).contains key := by
  unfold ConsentFlow.context
  simp only [Context.contains_putText]

theorem missingInputs_context (c : Component) (d : RunDefinition) (ctx : Context)
    (i j : ConsentItem) :
    c.missingInputs (ConsentFlow.context d i ctx) =
      c.missingInputs (ConsentFlow.context d j ctx) := by
  unfold Component.missingInputs
  simp only [contains_context d ctx i j]

/-! ## Refused flows -/

/-- On a runner that is free, a flow is refused for all that its context does not set. -/
theorem begin_of_missing {item : ConsentItem} {acquisition : Acquisition}
    (h : acquisition.component.missingInputs (ConsentFlow.context d item ctx) ≠ []) :
    ConsentFlow.begin Runner.forConsent d item ctx acquisition =
      .error (.component (.missingInputs acquisition.component.name
        (acquisition.component.missingInputs (ConsentFlow.context d item ctx)))) := by
  unfold ConsentFlow.begin ConsentFlow.ofComponent
  rw [Component.checkInputs_of_missing h]
  rfl

/-- When the first flow lacks something, nothing is started. -/
theorem dispatch_of_missing {item : ConsentItem} {names : List String} (rest : List ConsentItem)
    (h : d.settings.acquisition.component.missingInputs (ConsentFlow.context d item ctx) = names)
    (hnames : names ≠ []) :
    dispatch d ctx (item :: rest) =
      ([], some (.component (.missingInputs d.settings.acquisition.component.name names))) := by
  subst h
  unfold dispatch
  rw [begin_of_missing hnames]

/-- If any flow is refused, it is the first one. -/
theorem dispatch_refused {items : List ConsentItem} {flows : List ConsentFlow} {e : StartError}
    (h : dispatch d ctx items = (flows, some e)) :
    flows = [] ∧ ∃ item,
      d.settings.acquisition.component.missingInputs (ConsentFlow.context d item ctx) ≠ [] ∧
      e = .component (.missingInputs d.settings.acquisition.component.name
        (d.settings.acquisition.component.missingInputs (ConsentFlow.context d item ctx))) := by
  cases items with
  | nil => cases h
  | cons item rest =>
      by_cases hmissing :
          d.settings.acquisition.component.missingInputs (ConsentFlow.context d item ctx) = []
      · -- What the first flow has, all the others have.
        have hall : ∀ other ∈ item :: rest, d.settings.acquisition.component.missingInputs
            (ConsentFlow.context d other ctx) = [] := fun other _ => by
          rw [missingInputs_context _ d ctx other item, hmissing]
        obtain ⟨others, hothers⟩ := dispatch_succeeds hall
        rw [hothers] at h
        cases h
      · rw [dispatch_of_missing rest rfl hmissing] at h
        cases h
        exact ⟨rfl, item, hmissing, rfl⟩

/-! ## All or none -/

/-- What is left of an acquisition that is refused. -/
structure Refusal [Idna] (d : RunDefinition) (ctx : Context) (specs : List SpecTokens)
    (flows : List ConsentFlow) (e : StartError) : Prop where
  none_started : flows = []
  /-- Nobody goes on afterwards, so no request is sent and no result is reported, then or later. -/
  untouched : ∀ r : Rehearsal, r.definition = d →
    r.acquire specs ctx = ((.error (.notStarted e), ctx), r)
  /-- The error lists, in order, what the component reads and the context of a flow does not set. -/
  listed : ∃ names,
    e = .component (.missingInputs d.settings.acquisition.component.name names) ∧ names ≠ [] ∧
    names.Pairwise (· < ·) ∧
    ∀ item key, key ∈ names ↔ d.settings.acquisition.component.inputs.contains key = true ∧
      (ConsentFlow.context d item ctx).contains key = false

theorem refusal_of_dispatch [Idna] {specs : List SpecTokens} {flows : List ConsentFlow}
    {e : StartError}
    (h : dispatch d ctx (wanted specs) = (flows, some e)) : Refusal d ctx specs flows e := by
  obtain ⟨rfl, item, hmissing, rfl⟩ := dispatch_refused h
  refine ⟨rfl, fun r hr => ?_, _, rfl, hmissing, Component.missingInputs_pairwise _ _, fun other key => ?_⟩
  · subst hr
    unfold Rehearsal.acquire
    rw [h]
    dsimp only
    rw [List.map_nil, List.append_nil]
  · rw [missingInputs_context _ d ctx item other]
    exact Component.mem_missingInputs

/-- Once the flows run, the acquisition can no longer be refused. -/
theorem ending_started {required : Nat} {g : Gathering}
    {outcome : Except ConsentError (List ConsentItem)} (h : g.Ending required outcome)
    (e : StartError) : outcome ≠ .error (.notStarted e) := by
  cases h with
  | enough =>
      unfold settleItems
      dsimp only
      split <;> exact nofun
  | closed => exact nofun
  | timeout => exact nofun

/-- **All or none.** Whatever an acquisition comes to: if it is refused, no flow has been started and
the error lists in order exactly what the component reads and the contexts of the flows do not set,
which is the same for all tokens. If any flow has been started, there is one for every token that
needs a consent, and the acquisition is not refused. -/
theorem ends_starts_all_or_none [Idna] {ctx' : Context} {specs : List SpecTokens}
    {flows : List ConsentFlow} {outcome : Except ConsentError (List ConsentItem)}
    (h : Ends d ctx specs flows outcome ctx') :
    (∀ e, outcome = .error (.notStarted e) → Refusal d ctx specs flows e ∧ ctx' = ctx) ∧
    (flows ≠ [] → flows.map (·.item) = wanted specs ∧
      ∀ e, outcome ≠ .error (.notStarted e)) := by
  cases h with
  | refused hdispatch =>
      refine ⟨fun e he => ?_, fun hsome => ?_⟩
      · cases he
        exact ⟨refusal_of_dispatch hdispatch, rfl⟩
      · exact absurd (dispatch_refused hdispatch).1 hsome
  | gathered hdispatch hreach hend =>
      exact ⟨fun e he => absurd he (ending_started hend e),
        fun _ => ⟨dispatch_items hdispatch, ending_started hend⟩⟩

/-- Two groups that need a consent. -/
def twoGroups : List SpecTokens :=
  [{ identifier := "accounts", specType := .accounts, tokens := [
      { name := "accountToken0001", ids := ["balances"], required := ["ReadBalances"] },
      { name := "accountToken0002", ids := ["parties"], required := ["ReadParty"] }] }]

theorem twoGroups_refused :
    let ctx := (sampleContext.erase "token_endpoint").erase "client_id"
    let e : StartError := .component
      (.missingInputs "PSUConsentProviderComponent" ["client_id", "token_endpoint"])
    Ends {} ctx twoGroups [] (.error (.notStarted e)) ctx ∧ Refusal {} ctx twoGroups [] e := by
  intro ctx e
  have hwanted : wanted twoGroups = [.new "accountToken0001" "\"ReadBalances\"",
      .new "accountToken0002" "\"ReadParty\""] := by
    decide
  have hdispatch : dispatch {} ctx (wanted twoGroups) = ([], some e) := by
    rw [hwanted]
    exact dispatch_of_missing _ (by decide) (by decide)
  have hends : Ends {} ctx twoGroups [] (.error (.notStarted e)) ctx := .refused hdispatch
  exact ⟨hends, ((ends_starts_all_or_none hends).1 e rfl).1⟩

end Conformance.Acquisition
