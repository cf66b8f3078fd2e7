import Conformance.Proofs.Consent.Acquisition
import Mathlib.Data.List.Nodup

/-!
# The order in which items arrive

Flows run side by side and send their items in any order, and the consents are kept one by one as
they arrive. `arrival_order`: whatever the order, the shared context holds the same in the end, but
for the token of the client, which is that of the last item that brought one. `ends_arrival_order`
says the same of any two ways in which the flows may run.

Every token has a name of its own, so the items write to different names (`get_foldl_keep_perm`);
only the name of the client's token is shared, and there the last write counts
(`get_foldl_keep_client`).
-/

namespace Conformance.Acquisition

variable {ctx : Context} {items items' : List ConsentItem}

/-! ## The names of tokens -/

/-- Of items with names of their own, each one's name holds its consent. -/
theorem getText_foldl_keep_of_mem {item : ConsentItem}
    (hnames : (items.map (·.tokenName)).Nodup) (hmem : item ∈ items)
    (hclient : item.tokenName ≠ Context.clientTokenName) :
    (items.foldl keep ctx).getText item.tokenName = .ok item.consentId := by
  have hkept : ∃ other ∈ items, other.tokenName = item.tokenName ∧
      (items.foldl keep ctx).getText item.tokenName = .ok other.consentId :=
    getText_foldl_keep hclient ⟨item, hmem, rfl⟩
  obtain ⟨other, hother, hname, htext⟩ := hkept
  have hsame : other = item := List.inj_on_of_nodup_map hnames hother hmem hname
  rw [htext, hsame]

/-- Items with names of their own may be kept in any order. -/
theorem get_foldl_keep_perm {key : String} (hperm : items.Perm items')
    (hnames : (items.map (·.tokenName)).Nodup) (hkey : key ≠ Context.clientTokenName) :
    (items.foldl keep ctx).get key = (items'.foldl keep ctx).get key := by
  have hnames' : (items'.map (·.tokenName)).Nodup := (hperm.map _).nodup_iff.mp hnames
  by_cases hnamed : ∃ i ∈ items, i.tokenName = key
  · obtain ⟨i, hi, rfl⟩ := hnamed
    have htext : (items.foldl keep ctx).getText i.tokenName = .ok i.consentId :=
      getText_foldl_keep_of_mem hnames hi hkey
    have htext' : (items'.foldl keep ctx).getText i.tokenName = .ok i.consentId :=
      getText_foldl_keep_of_mem hnames' (hperm.mem_iff.mp hi) hkey
    refine Context.get_eq_of_get?_eq ?_
    rw [Context.getText_eq_ok_iff.mp htext, Context.getText_eq_ok_iff.mp htext']
  · have hother : ∀ i ∈ items, i.tokenName ≠ key := fun i hi h => hnamed ⟨i, hi, h⟩
    rw [get_foldl_keep hkey hother,
      get_foldl_keep hkey fun i hi => hother i (hperm.mem_iff.mpr hi)]

/-! ## The token of the client -/

/-- What the name of the client's token holds when items have been kept: the token of the last item
that brought one, or else what it held before. -/
def clientBinding (ctx : Context) (items : List ConsentItem) : Except ContextError Context.Value :=
  match items.findRev? fun i => i.clientAccessToken ≠ "" with
  | some i => .ok (.text i.clientAccessToken)
  | none => ctx.get Context.clientTokenName

theorem clientBinding_cons (item : ConsentItem) (rest : List ConsentItem)
    (hname : item.tokenName ≠ Context.clientTokenName) :
    clientBinding ctx (item :: rest) = clientBinding (keep ctx item) rest := by
  have hput : (ctx.putText item.tokenName item.consentId).get Context.clientTokenName =
      ctx.get Context.clientTokenName := Context.get_putText_of_ne ctx hname _
  unfold clientBinding
  rw [List.findRev?]
  cases rest.findRev? fun i => i.clientAccessToken ≠ "" with
  | some last => rfl
  | none =>
      unfold keep
      by_cases htoken : item.clientAccessToken = ""
      · simpa [htoken] using hput.symm
      · simp [htoken, Context.get_putText_self]

theorem get_foldl_keep_client (hclient : ∀ i ∈ items, i.tokenName ≠ Context.clientTokenName) :
    (items.foldl keep ctx).get Context.clientTokenName = clientBinding ctx items := by
  induction items generalizing ctx with
  | nil => rfl
  | cons item rest ih =>
      obtain ⟨hitem, hrest⟩ := List.forall_mem_cons.mp hclient
      rw [List.foldl_cons, ih hrest, clientBinding_cons item rest hitem]

/-! ## Two orders -/

/-- A wait for items that all come in time and without error ends with them, in their order. -/
theorem waitForItems_inTime {arrivals : List (Nat × ConsentItem)} {deadline : Nat} (rest : Feed)
    (htime : ∀ a ∈ arrivals, a.1 = 0 ∨ a.1 < deadline) (herror : ∀ a ∈ arrivals, a.2.error = "") :
    waitForItems arrivals.length deadline (arrivals.map (fun a => (a.1, .sent a.2)) ++ rest) =
      .ok (arrivals.map (·.2)) := by
  have hok : ∀ i ∈ arrivals.map (·.2), i.error = "" := by
    intro i hi
    obtain ⟨a, ha, rfl⟩ := List.mem_map.mp hi
    exact herror a ha
  rw [waitForItems, receiveItems_early htime (Nat.zero_le _), if_pos (by simp)]
  simp only [List.nil_append]
  rw [List.take_of_length_le (by simp), settleItems_ok hok]

/-- **Any order will do.** Let the same items arrive in two orders, at any times before the deadline
and whatever happens to the channel afterwards. If they are without error, no two have one name and
none has that of the client's token, then the two contexts that the acquisition ends with hold the
same under every other name. The name of the client's token holds in each the token of the last item
that brought one, or what it held before if none did. -/
theorem arrival_order (ctx : Context) {deadline : Nat} {arrivals arrivals' : List (Nat × ConsentItem)}
    (rest rest' : Feed) (htime : ∀ a ∈ arrivals, a.1 = 0 ∨ a.1 < deadline)
    (htime' : ∀ a ∈ arrivals', a.1 = 0 ∨ a.1 < deadline)
    (hperm : (arrivals.map (·.2)).Perm (arrivals'.map (·.2)))
    (herror : ∀ a ∈ arrivals, a.2.error = "")
    (hnames : (arrivals.map (·.2.tokenName)).Nodup)
    (hclient : ∀ a ∈ arrivals, a.2.tokenName ≠ Context.clientTokenName) :
    let after := conclude ctx (waitForItems arrivals.length deadline
      (arrivals.map (fun a => (a.1, .sent a.2)) ++ rest))
    let after' := conclude ctx (waitForItems arrivals'.length deadline
      (arrivals'.map (fun a => (a.1, .sent a.2)) ++ rest'))
    (∀ key, key ≠ Context.clientTokenName → after.get key = after'.get key) ∧
      after.get Context.clientTokenName = clientBinding ctx (arrivals.map (·.2)) ∧
      after'.get Context.clientTokenName = clientBinding ctx (arrivals'.map (·.2)) := by
  have hclientItems : ∀ i ∈ arrivals.map (·.2), i.tokenName ≠ Context.clientTokenName := by
    intro i hi
    obtain ⟨a, ha, rfl⟩ := List.mem_map.mp hi
    exact hclient a ha
  have herror' : ∀ a ∈ arrivals', a.2.error = "" := by
    intro a ha
    obtain ⟨b, hb, hba⟩ := List.mem_map.mp (hperm.mem_iff.mpr (List.mem_map_of_mem ha))
    rw [← hba]
    exact herror b hb
  intro after after'
  have hafter : after = (arrivals.map (·.2)).foldl keep ctx :=
    congrArg (conclude ctx) (waitForItems_inTime rest htime herror)
  have hafter' : after' = (arrivals'.map (·.2)).foldl keep ctx :=
    congrArg (conclude ctx) (waitForItems_inTime rest' htime' herror')
  rw [hafter, hafter']
  refine ⟨fun key hkey => get_foldl_keep_perm hperm (by rwa [List.map_map]) hkey,
    get_foldl_keep_client hclientItems,
    get_foldl_keep_client fun i hi => hclientItems i (hperm.mem_iff.mpr hi)⟩

/-- Two items, each with a token of the client. -/
def sampleArrivals : List (Nat × ConsentItem) :=
  [(0, { tokenName := "first", consentId := "c-1", clientAccessToken := "t-1" }),
    (3, { tokenName := "second", consentId := "c-2", clientAccessToken := "t-2" })]

theorem sampleArrivals_reversed :
    let swapped : List (Nat × ConsentItem) :=
      [(1, { tokenName := "second", consentId := "c-2", clientAccessToken := "t-2" }),
        (2, { tokenName := "first", consentId := "c-1", clientAccessToken := "t-1" })]
    let feed (arrivals : List (Nat × ConsentItem)) : Feed :=
      arrivals.map fun a => (a.1, .sent a.2)
    let after := conclude .empty (waitForItems 2 5 (feed sampleArrivals ++ [(3, .closed)]))
    let after' := conclude .empty (waitForItems 2 5 (feed swapped ++ []))
    after.get "first" = after'.get "first" ∧
      after.get Context.clientTokenName = .ok (.text "t-2") ∧
      after'.get Context.clientTokenName = .ok (.text "t-1") := by
  intro swapped feed after after'
  obtain ⟨hothers, hclient, hclient'⟩ := arrival_order .empty [(3, .closed)] []
    (by decide : ∀ a ∈ sampleArrivals, a.1 = 0 ∨ a.1 < 5)
    (by decide : ∀ a ∈ swapped, a.1 = 0 ∨ a.1 < 5)
    (by decide) (by decide) (by decide) (by decide)
  exact ⟨hothers "first" (by decide), hclient.trans (by decide), hclient'.trans (by decide)⟩

/-- Any two ways in which an acquisition may succeed leave the same, but for the token of the
client, if they have the same items. -/
theorem ends_arrival_order [Idna] {d d' : RunDefinition} {specs specs' : List SpecTokens}
    {flows flows' : List ConsentFlow} {after after' : Context}
    (h : Ends d ctx specs flows (.ok items) after)
    (h' : Ends d' ctx specs' flows' (.ok items') after') (hperm : items.Perm items')
    (hnames : (items.map (·.tokenName)).Nodup) {key : String}
    (hkey : key ≠ Context.clientTokenName) : after.get key = after'.get key := by
  cases h with
  | gathered =>
      cases h' with
      | gathered => exact get_foldl_keep_perm hperm hnames hkey

end Conformance.Acquisition
