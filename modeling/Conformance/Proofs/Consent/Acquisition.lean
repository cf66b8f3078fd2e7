import Conformance.Proofs.Consent.Interleaving
import Conformance.Proofs.Consent.Waiting
import Conformance.Proofs.Context
import Conformance.Proofs.Except
import Conformance.Proofs.Expansion
import Conformance.Walk.Course

/-!
# Acquisitions are all or nothing

What an acquisition leaves behind, in whatever order its flows run and whatever answers they get.
`ends_all_or_nothing`: a flow is started for every group of an accounts specification that has
permissions, and for no other; if the acquisition succeeds, there is one item for each of them, and
the consents of the items are kept under the names of their tokens; if it fails, nothing is kept.

The items are counted in `Interleaving`; here are the two ends, setting up flows (`dispatch_items`)
and keeping consents (`get_foldl_keep`, `getText_foldl_keep`).
-/

namespace Conformance

namespace Acquisition

/-! ## Setting up flows -/

/-- The groups of accounts specifications that have permissions. -/
def consentGroups (specs : List SpecTokens) : List TokenRequirement :=
  specs.flatMap fun s =>
    if s.specType = .accounts then
      s.tokens.filter fun t => decide (t.required ≠ [] ∨ t.excluded ≠ [])
    else []

/-- What the flow of a group is known by. -/
def groupKey (t : TokenRequirement) : String × String := (t.name, permissionList t.required)

theorem mem_tokens_of_mem_consentGroups {specs : List SpecTokens} {t : TokenRequirement}
    (h : t ∈ consentGroups specs) : ∃ s ∈ specs, t ∈ s.tokens := by
  obtain ⟨s, hs, ht⟩ := List.mem_flatMap.mp h
  split at ht
  · exact ⟨s, hs, (List.mem_filter.mp ht).1⟩
  · cases ht

theorem wanted_eq (specs : List SpecTokens) :
    wanted specs =
      (consentGroups specs).map fun t => ConsentItem.new t.name (permissionList t.required) := by
  have hrestricted : (fun t : TokenRequirement => !t.isUnrestricted) =
      fun t => decide (t.required ≠ [] ∨ t.excluded ≠ []) := by
    funext t
    cases hr : t.required <;> cases he : t.excluded <;>
      simp [TokenRequirement.isUnrestricted, hr, he]
  unfold wanted consentGroups
  rw [hrestricted]
  induction specs with
  | nil => rfl
  | cons s rest ih =>
      rw [List.flatMap_cons, List.map_append, ← ih]
      by_cases hs : s.specType = .accounts
      · rw [List.filter_cons_of_pos (by simp [hs]), List.flatMap_cons, if_pos hs]
      · rw [List.filter_cons_of_neg (by simp [hs]), if_neg hs]
        rfl

/-- A flow that is set up is for the item, has a context of its own, and walks over the test cases of
the component as far as they are expanded with that context. -/
theorem begin_eq_ok {runner runner' : Runner} {d : RunDefinition} {item : ConsentItem}
    {ctx : Context} {acquisition : Acquisition} {flow : ConsentFlow}
    (h : ConsentFlow.begin runner d item ctx acquisition = .ok (flow, runner')) :
    flow.item = item ∧ flow.ctx = ConsentFlow.context d item ctx ∧
      Component.expandTests (ConsentFlow.context d item ctx) acquisition.component.tests =
        .ok flow.component.tests := by
  unfold ConsentFlow.begin at h
  obtain ⟨taken, -, h⟩ := Except.bind_eq_ok_iff.mp h
  split at h
  next f hf =>
    cases h
    unfold ConsentFlow.ofComponent at hf
    obtain ⟨-, -, hf⟩ := Except.bind_eq_ok_iff.mp hf
    obtain ⟨component, hcomponent, hf⟩ := Except.bind_eq_ok_iff.mp hf
    cases hf
    unfold Component.expand at hcomponent
    split at hcomponent
    next tests htests =>
      cases hcomponent
      exact ⟨rfl, rfl, htests⟩
    · cases hcomponent
  · cases h

theorem begin_item {runner runner' : Runner} {d : RunDefinition} {item : ConsentItem}
    {ctx : Context} {acquisition : Acquisition} {flow : ConsentFlow}
    (h : ConsentFlow.begin runner d item ctx acquisition = .ok (flow, runner')) :
    flow.item = item := (begin_eq_ok h).1

/-- On a runner that is free, a flow starts when the context sets all that its component reads. -/
theorem begin_succeeds {d : RunDefinition} {item : ConsentItem} {ctx : Context}
    {acquisition : Acquisition}
    (h : acquisition.component.missingInputs (ConsentFlow.context d item ctx) = []) :
    ∃ flow runner,
      ConsentFlow.begin Runner.forConsent d item ctx acquisition = .ok (flow, runner) := by
  obtain ⟨component, hcomponent⟩ :=
    acquisition.component.expand_succeeds (ConsentFlow.context d item ctx)
  have hinputs := Component.checkInputs_eq_ok_iff.mpr h
  have hflow : ConsentFlow.ofComponent acquisition.component item (ConsentFlow.context d item ctx) =
      .ok ⟨component, item, ConsentFlow.context d item ctx⟩ := by
    rw [ConsentFlow.ofComponent, hinputs, hcomponent]
    rfl
  refine ⟨⟨component, item, ConsentFlow.context d item ctx⟩,
    { Runner.forConsent with running := true }, ?_⟩
  unfold ConsentFlow.begin
  rw [hflow]
  rfl

/-- No flow is refused when the context sets all that the component reads. -/
theorem dispatch_succeeds {d : RunDefinition} {ctx : Context} {items : List ConsentItem}
    (h : ∀ item ∈ items, d.settings.acquisition.component.missingInputs
      (ConsentFlow.context d item ctx) = []) : ∃ flows, dispatch d ctx items = (flows, none) := by
  induction items with
  | nil => exact ⟨[], rfl⟩
  | cons item rest ih =>
      obtain ⟨hitem, hrest⟩ := List.forall_mem_cons.mp h
      obtain ⟨flow, runner, hbegin⟩ := begin_succeeds hitem
      obtain ⟨flows, hflows⟩ := ih hrest
      exact ⟨flow :: flows, by simp only [dispatch, hbegin, hflows]⟩

/-- Unless one is refused, a flow is set up for every item, in order. -/
theorem dispatch_items {d : RunDefinition} {ctx : Context} {items : List ConsentItem}
    {flows : List ConsentFlow} (h : dispatch d ctx items = (flows, none)) :
    flows.map (·.item) = items := by
  induction items generalizing flows with
  | nil =>
      cases h
      rfl
  | cons item rest ih =>
      unfold dispatch at h
      split at h
      · cases h
      next flow runner hbegin =>
        cases hrest : dispatch d ctx rest with
        | mk others error =>
            rw [hrest] at h
            cases h
            rw [List.map_cons, begin_item hbegin, ih hrest]

theorem dispatch_wanted {d : RunDefinition} {ctx : Context} {specs : List SpecTokens}
    {flows : List ConsentFlow} (h : dispatch d ctx (wanted specs) = (flows, none)) :
    (flows.map fun f => f.item.key) = (consentGroups specs).map groupKey := by
  have hitems := congrArg (List.map ConsentItem.key) (dispatch_items h)
  rw [wanted_eq, List.map_map, List.map_map] at hitems
  exact hitems

/-! ## Keeping consents -/

theorem get_keep_of_ne {ctx : Context} {item : ConsentItem} {key : String}
    (hkey : key ≠ Context.clientTokenName) (hname : item.tokenName ≠ key) :
    (keep ctx item).get key = ctx.get key := by
  unfold keep
  split
  · exact Context.get_putText_of_ne _ hname _
  · rw [Context.get_putText_of_ne _ (Ne.symm hkey), Context.get_putText_of_ne _ hname]

theorem getText_keep_self {ctx : Context} {item : ConsentItem}
    (hname : item.tokenName ≠ Context.clientTokenName) :
    (keep ctx item).getText item.tokenName = .ok item.consentId := by
  unfold keep
  split
  · exact Context.getText_putText_self ..
  · rw [Context.getText_congr (Context.get_putText_of_ne _ (Ne.symm hname) _)]
    exact Context.getText_putText_self ..

/-- A name that is no item's, and not that of the client's token, keeps its value. -/
theorem get_foldl_keep {ctx : Context} {items : List ConsentItem} {key : String}
    (hkey : key ≠ Context.clientTokenName) (hnames : ∀ i ∈ items, i.tokenName ≠ key) :
    (items.foldl keep ctx).get key = ctx.get key := by
  induction items generalizing ctx with
  | nil => rfl
  | cons item rest ih =>
      obtain ⟨hitem, hrest⟩ := List.forall_mem_cons.mp hnames
      rw [List.foldl_cons, ih hrest, get_keep_of_ne hkey hitem]

/-- The name of an item holds the consent of an item of that name: of several, the last. -/
theorem getText_foldl_keep {ctx : Context} {items : List ConsentItem} {name : String}
    (hname : name ≠ Context.clientTokenName) (hmem : ∃ i ∈ items, i.tokenName = name) :
    ∃ i ∈ items, i.tokenName = name ∧
      (items.foldl keep ctx).getText name = .ok i.consentId := by
  induction items generalizing ctx with
  | nil =>
      obtain ⟨i, hi, -⟩ := hmem
      cases hi
  | cons item rest ih =>
      rw [List.foldl_cons]
      by_cases hrest : ∃ i ∈ rest, i.tokenName = name
      · obtain ⟨i, hi, hiname, htext⟩ := @ih (keep ctx item) hrest
        exact ⟨i, List.mem_cons_of_mem item hi, hiname, htext⟩
      · obtain ⟨i, hi, hiname⟩ := hmem
        have hi' : i = item := by
          rcases List.mem_cons.mp hi with h | h
          · exact h
          · exact absurd ⟨i, h, hiname⟩ hrest
        subst hi'
        refine ⟨i, List.mem_cons_self, hiname, ?_⟩
        have hkept : (rest.foldl keep (keep ctx i)).get name = (keep ctx i).get name :=
          get_foldl_keep hname fun j hj hjname => hrest ⟨j, hj, hjname⟩
        rw [Context.getText_congr hkept, ← hiname]
        exact getText_keep_self (hiname ▸ hname)

/-! ## Outcomes -/

theorem settleItems_eq_ok {items received : List ConsentItem}
    (h : settleItems received = .ok items) : received = items ∧ ∀ i ∈ items, i.error = "" := by
  by_cases hok : ∀ i ∈ received, i.error = ""
  · rw [settleItems_ok hok] at h
    cases h
    exact ⟨rfl, hok⟩
  · have hfailed : ∃ i ∈ received, i.error ≠ "" := by
      simpa only [not_forall, exists_prop] using hok
    rw [settleItems_failed hfailed] at h
    cases h

/-- A gathering that ends well has one item for each flow, none of them failed. -/
theorem items_of_ending [Idna] {flows : List ConsentFlow} {g : Gathering} {items : List ConsentItem}
    (hreach : Gathering.Reachable flows.length (.start flows) g)
    (hend : g.Ending flows.length (.ok items)) :
    (items.map ConsentItem.key).Perm (flows.map fun f => f.item.key) ∧
      ∀ i ∈ items, i.error = "" := by
  generalize hout : Except.ok items = outcome at hend
  cases hend with
  | enough h =>
      obtain ⟨rfl, herror⟩ := settleItems_eq_ok hout.symm
      exact ⟨hreach.received_perm h, herror⟩
  | closed => cases hout
  | timeout => cases hout

/-- **All or nothing.** In whatever order the flows of an acquisition run and whatever answers they
get: unless a flow is refused, exactly one is started for each group of an accounts specification
that has permissions. If the acquisition succeeds, its items are those of these groups, one each
and without error; each name of a group holds the consent of an item of that name, and no other
name changes its value but that of the client's token. If it fails, nothing has changed. -/
theorem ends_all_or_nothing [Idna] {d : RunDefinition} {ctx ctx' : Context}
    {specs : List SpecTokens}
    {flows : List ConsentFlow} {outcome : Except ConsentError (List ConsentItem)}
    (hnames : ∀ s ∈ specs, ∀ t ∈ s.tokens, t.name ≠ Context.clientTokenName)
    (h : Ends d ctx specs flows outcome ctx') :
    ((dispatch d ctx (wanted specs)).2 = none →
      (flows.map fun f => f.item.key) = (consentGroups specs).map groupKey) ∧
    (∀ items, outcome = .ok items →
      (items.map ConsentItem.key).Perm ((consentGroups specs).map groupKey) ∧
      (∀ i ∈ items, i.error = "") ∧
      (∀ t ∈ consentGroups specs,
        ∃ i ∈ items, i.tokenName = t.name ∧ ctx'.getText t.name = .ok i.consentId) ∧
      ∀ key, ctx'.get key ≠ ctx.get key →
        key = Context.clientTokenName ∨ ∃ t ∈ consentGroups specs, key = t.name) ∧
    ∀ e, outcome = .error e → ctx' = ctx := by
  cases h with
  | refused hdispatch =>
      refine ⟨fun hnone => ?_, fun items hok => ?_, fun e he => rfl⟩
      · rw [hdispatch] at hnone
        cases hnone
      · cases hok
  | gathered hdispatch hreach hend =>
      have hkeys := dispatch_wanted hdispatch
      refine ⟨fun _ => hkeys, fun items hok => ?_, fun e he => by rw [he]; rfl⟩
      subst hok
      obtain ⟨hperm, herror⟩ := items_of_ending hreach hend
      rw [hkeys] at hperm
      refine ⟨hperm, herror, fun t ht => ?_, fun key hchanged => ?_⟩
      · obtain ⟨s, hs, hts⟩ := mem_tokens_of_mem_consentGroups ht
        refine getText_foldl_keep (hnames s hs t hts) ?_
        obtain ⟨i, hi, hkey⟩ := List.mem_map.mp (hperm.mem_iff.mpr (List.mem_map_of_mem ht))
        exact ⟨i, hi, congrArg Prod.fst hkey⟩
      · by_contra hnone
        rw [not_or] at hnone
        refine hchanged (get_foldl_keep hnone.1 fun i hi hname => hnone.2 ?_)
        obtain ⟨t, ht, hkey⟩ := List.mem_map.mp (hperm.mem_iff.mp (List.mem_map_of_mem hi))
        exact ⟨t, ht, hname.symm.trans (congrArg Prod.fst hkey).symm⟩

/-- Three groups, of which only the first needs a consent. -/
def sampleSpecs : List SpecTokens :=
  [{ identifier := "accounts", specType := .accounts, tokens := [
      { name := "accountToken0001", ids := ["balances"], required := ["ReadBalances"] },
      { name := "accountToken0002", ids := ["open"] }] },
   { identifier := "payments", specType := .payments, tokens := [
      { name := "paymentToken0001", ids := ["payment"], required := ["Pay"] }] }]

/-- A context that sets what the component reads. -/
def sampleContext : Context := .ofList [
  ("authorisation_endpoint", .text "https://bank/authorise"),
  ("baseurl", .text "https://bank"),
  ("client_id", .text "client"),
  ("redirect_url", .text "https://client/redirect"),
  ("signing_key", .handle (.signingKey ⟨none, none⟩)),
  ("token_endpoint", .text "https://bank/token"),
  ("x-fapi-financial-id", .text "bank")]

end Acquisition

namespace ConsentFlow.Course

/-- A flow is let go on, and its requests get an answer of a status and with a body each. -/
def sampleMoves (answers : List (Nat × String)) : List Walk.Move :=
  answers.flatMap (fun a => [.advance false, .receive none (.ok ⟨.ofBody a.1 a.2, {}⟩)]) ++
    [.advance false, .advance false]

/-- The answers of a bank that grants the consent. -/
def granting : List (Nat × String) :=
  [(200, "\x7b\"access_token\":\"t-1\"\x7d"),
    (201, "\x7b\"Data\":\x7b\"ConsentId\":\"c-1\"\x7d\x7d"), (200, "")]

end ConsentFlow.Course

namespace Acquisition

/-- Where the walk of a flow stands when the bank has granted the consent. -/
def grantedWalk (f : ConsentFlow) : Walk :=
  (({ walk := f.walk } : Walk.Course).play
    (ConsentFlow.Course.sampleMoves ConsentFlow.Course.granting)).walk

/-- What the flows have to report then, each if its walk has come to its end. -/
theorem sampleSpecs_granted :
    (dispatch {} sampleContext (wanted sampleSpecs)).1.map (fun f =>
        match (grantedWalk f).place with
        | .ended ending =>
            let i := f.report (grantedWalk f).ctx ending
            some (i.error, i.consentId, i.clientAccessToken)
        | _ => none) =
      [some ("", "c-1", "t-1")] := by
  decide +kernel

/-- There is one flow, and its item may be received. -/
theorem sampleSpecs_received :
    ∃ f item, dispatch {} sampleContext (wanted sampleSpecs) = ([f], none) ∧
      (∃ g, Gathering.Reachable 1 (.start [f]) g ∧ g.received = [item]) ∧
      item.error = "" ∧ item.consentId = "c-1" ∧ item.clientAccessToken = "t-1" := by
  obtain ⟨flows, hdispatch⟩ :
      ∃ flows, dispatch {} sampleContext (wanted sampleSpecs) = (flows, none) :=
    dispatch_succeeds (by decide)
  obtain ⟨f, rfl⟩ : ∃ f, flows = [f] := by
    have hitems := congrArg List.length (dispatch_items hdispatch)
    rw [List.length_map] at hitems
    exact List.length_eq_one_iff.mp hitems
  have hgranted := sampleSpecs_granted
  rw [hdispatch, List.map_singleton, List.singleton_inj] at hgranted
  split at hgranted
  next ending hended =>
    simp only [Option.some.injEq, Prod.mk.injEq] at hgranted
    refine ⟨f, f.report (grantedWalk f).ctx ending, hdispatch, ?_, hgranted⟩
    exact ⟨_, (Gathering.reachable_play 1 f { walk := f.walk } _).trans
      (.head (.send (.refl _) hended) (.single (.receive Nat.one_pos rfl))), rfl⟩
  next => cases hgranted

/-- If nothing is answered in time, nothing is kept; if the bank grants the consent, it is kept under
the name of the one group that needs it, and the token of the client under its name. -/
theorem sampleSpecs_ends :
    (∀ s ∈ sampleSpecs, ∀ t ∈ s.tokens, t.name ≠ Context.clientTokenName) ∧
      (∃ flows, Ends {} sampleContext sampleSpecs flows (.error (.timeout 0 1 [])) sampleContext ∧
        (flows.map fun f => f.item.key) = [("accountToken0001", "\"ReadBalances\"")]) ∧
      ∃ flows item ctx, Ends {} sampleContext sampleSpecs flows (.ok [item]) ctx ∧
        item.key = ("accountToken0001", "\"ReadBalances\"") ∧ item.error = "" ∧
        ctx.getText "accountToken0001" = .ok "c-1" ∧
        ctx.getText "client_access_token" = .ok "t-1" ∧
        ∀ key, ctx.get key ≠ sampleContext.get key →
          key = "client_access_token" ∨ key = "accountToken0001" := by
  have hnames : ∀ s ∈ sampleSpecs, ∀ t ∈ s.tokens, t.name ≠ Context.clientTokenName := by
    decide
  have hgroups : ∀ t ∈ consentGroups sampleSpecs, t.name = "accountToken0001" := by decide
  obtain ⟨f, item, hdispatch, ⟨g, hreach, hreceived⟩, herror, hconsent, htoken⟩ :=
    sampleSpecs_received
  refine ⟨hnames, ⟨[f], ?_⟩, [f], item, conclude sampleContext (.ok [item]), ?_⟩
  · have hends : Ends {} sampleContext sampleSpecs [f] (.error (.timeout 0 1 [])) sampleContext :=
      .gathered hdispatch .refl (.timeout Nat.one_pos)
    exact ⟨hends, (ends_all_or_nothing hnames hends).1 (by rw [hdispatch])⟩
  · have hends : Ends {} sampleContext sampleSpecs [f] (.ok [item])
        (conclude sampleContext (.ok [item])) := by
      refine .gathered hdispatch hreach ?_
      have hok := settleItems_ok (List.forall_mem_singleton.mpr herror)
      rw [← hok, ← hreceived]
      exact .enough (by rw [hreceived]; exact le_rfl)
    obtain ⟨hperm, -, hkept, hframe⟩ := (ends_all_or_nothing hnames hends).2.1 _ rfl
    refine ⟨hends, List.singleton_perm_singleton.mp hperm, herror, ?_, ?_, fun key hkey => ?_⟩
    · obtain ⟨i, hi, -, htext⟩ := hkept _ List.mem_cons_self
      rw [List.mem_singleton.mp hi, hconsent] at htext
      exact htext
    · change (keep sampleContext item).getText Context.clientTokenName = _
      rw [keep, htoken, if_neg (by decide)]
      exact Context.getText_putText_self ..
    · exact (hframe key hkey).imp_right fun ⟨t, ht, hname⟩ => hname.trans (hgroups t ht)

end Acquisition

end Conformance
