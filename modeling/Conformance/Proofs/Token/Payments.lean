import Conformance.Proofs.Context
import Conformance.Proofs.Token.Distinctness
import Mathlib.Data.List.Forall2

/-!
# Tokens of payments

Each payment test case that asks for a consent has a token of its own, numbered in their order
(`paymentTokens_carry`). The identifiers of a token are found by going through all test cases with a
list that grows: it begins with the identifier of the one that asks, and whatever refers to its consent
is added unless it is there already. What the list holds in the end is said without the way in which it
grew: everything that occurs, once, in the order of first occurrence (`FirstOccurrences`).
-/

namespace Conformance

/-! ## Each once, where it first occurs -/

/-- Texts are listed once each, in the order in which they first occur. -/
structure FirstOccurrences (occurrences listed : List String) : Prop where
  /-- What occurs is listed, and nothing else. -/
  mem_iff : ∀ s, s ∈ listed ↔ s ∈ occurrences
  /-- What is listed before something else occurs before it. -/
  inOrder : listed.Pairwise fun s s' => occurrences.idxOf s < occurrences.idxOf s'

namespace FirstOccurrences

variable {occurrences listed : List String} {s : String}

theorem nodup (h : FirstOccurrences occurrences listed) : listed.Nodup := by
  apply h.inOrder.imp
  rintro s s' hlt rfl
  exact absurd hlt (Nat.lt_irrefl _)

theorem singleton (s : String) : FirstOccurrences [s] [s] :=
  ⟨fun _ => Iff.rfl, List.pairwise_singleton _ _⟩

/-- What occurs later does not change the order. -/
theorem inOrder_append (h : FirstOccurrences occurrences listed) (later : List String) :
    listed.Pairwise fun s s' =>
      (occurrences ++ later).idxOf s < (occurrences ++ later).idxOf s' := by
  refine h.inOrder.imp_of_mem ?_
  intro s s' hs hs' hlt
  rwa [List.idxOf_append_of_mem ((h.mem_iff s).mp hs),
    List.idxOf_append_of_mem ((h.mem_iff s').mp hs')]

/-- What occurs again is not listed again. -/
theorem again (h : FirstOccurrences occurrences listed) (hs : s ∈ listed) :
    FirstOccurrences (occurrences ++ [s]) listed := by
  refine ⟨fun s' => ?_, h.inOrder_append [s]⟩
  rw [h.mem_iff, List.mem_append, List.mem_singleton]
  constructor
  · exact .inl
  · rintro (hs' | rfl)
    · exact hs'
    · exact (h.mem_iff s').mp hs

/-- What occurs for the first time is listed behind the rest. -/
theorem next (h : FirstOccurrences occurrences listed) (hs : s ∉ listed) :
    FirstOccurrences (occurrences ++ [s]) (listed ++ [s]) := by
  constructor
  · intro s'
    rw [List.mem_append, List.mem_append, h.mem_iff]
  · rw [List.pairwise_append]
    refine ⟨h.inOrder_append [s], List.pairwise_singleton _ _, ?_⟩
    intro before hbefore new hnew
    obtain rfl := List.mem_singleton.mp hnew
    have hmem := (h.mem_iff before).mp hbefore
    have habsent : new ∉ occurrences := fun hnew => hs ((h.mem_iff new).mpr hnew)
    rw [List.idxOf_append_of_mem hmem, List.idxOf_append_of_notMem habsent]
    exact Nat.lt_of_lt_of_le (List.idxOf_lt_length_of_mem hmem) (Nat.le_add_right _ _)

end FirstOccurrences

/-! ## References to a consent -/

namespace PaymentTokens

/-- The identifiers of the test cases that refer to the consent kept under a name, in their order. -/
def referring (param : String) (tests : List TestCase) : List String :=
  (tests.filter fun t => t.context.text? consentIdName = some ("$" ++ param)).map (·.id)

theorem asksConsent_iff {t : TestCase} :
    asksConsent t = true ↔ t.context.text? requestConsentName = some "true" := by
  rw [Context.text?_eq_some_iff, ← Context.getText_eq_ok_iff]
  unfold asksConsent
  split
  next h => simp [h]
  next h => simpa using h

theorem refersTo_iff {param : String} {t : TestCase} :
    refersTo param t = true ↔ t.context.text? consentIdName = some ("$" ++ param) := by
  unfold refersTo
  rcases t.context.getText_cases consentIdName with ⟨v, htext, hread⟩ | ⟨htext, e, hread⟩
  · rw [hread, htext, Option.some_inj, ← String.toList_inj, String.toList_append]
    simp
  · rw [hread, htext]
    simp

/-- Going through more test cases adds the identifiers that refer to the consent and are new. -/
theorem firstOccurrences_addReferences {param : String} {tests : List TestCase}
    {occurrences ids : List String} (h : FirstOccurrences occurrences ids) :
    FirstOccurrences (occurrences ++ referring param tests) (addReferences param tests ids) := by
  induction tests generalizing occurrences ids with
  | nil => simpa [referring, addReferences] using h
  | cons t rest ih =>
      rw [addReferences]
      by_cases hrefers : refersTo param t = true
      · have hreferring : referring param (t :: rest) = t.id :: referring param rest := by
          rw [referring, List.filter_cons_of_pos (by simpa using refersTo_iff.mp hrefers)]
          rfl
        rw [hreferring, hrefers, Bool.true_and, ← List.singleton_append, ← List.append_assoc]
        by_cases hid : t.id ∈ ids
        · rw [if_neg (by simpa using hid)]
          exact ih (h.again hid)
        · rw [if_pos (by simpa using hid)]
          exact ih (h.next hid)
      · have hreferring : referring param (t :: rest) = referring param rest := by
          rw [referring, List.filter_cons_of_neg (by simpa using mt refersTo_iff.mpr hrefers)]
          rfl
        rw [hreferring, if_neg (by simp [hrefers])]
        exact ih h

/-- The identifiers that were there stay in front. -/
theorem prefix_addReferences (param : String) (tests : List TestCase) (ids : List String) :
    ids <+: addReferences param tests ids := by
  induction tests generalizing ids with
  | nil => exact List.prefix_rfl
  | cons t rest ih =>
      rw [addReferences]
      split
      · exact (List.prefix_append ids [t.id]).trans (ih _)
      · exact ih ids

/-! ## One token for each consent -/

/-- A token is for the consent of one test case, and for those that refer to it. -/
structure CarriesConsent (tests : List TestCase) (t : TestCase) (token : TokenRequirement) :
    Prop where
  /-- It keeps the name of the consent, and nothing else but its own name and the identifiers. -/
  plain : token = { name := token.name, ids := token.ids, consentParam := consentParam t }
  /-- The identifier of the test case comes first. -/
  first : ∃ others, token.ids = t.id :: others
  /-- There is no other one if the consent has no name. -/
  alone : token.consentParam = "" → token.ids = [t.id]
  /-- Else those that refer to it follow, in the order in which they first do. -/
  followed : token.consentParam ≠ "" →
    FirstOccurrences (t.id :: referring token.consentParam tests) token.ids
  /-- No identifier is there twice. -/
  nodup : token.ids.Nodup

theorem carriesConsent_withReferences (tests : List TestCase) (t : TestCase) (name : String) :
    CarriesConsent tests t
      (withReferences tests { name := name, ids := [t.id], consentParam := consentParam t }) := by
  unfold withReferences
  split
  next hparam =>
    exact ⟨rfl, ⟨[], rfl⟩, fun _ => rfl, fun hne => absurd hparam hne, List.nodup_singleton _⟩
  next hparam =>
    have hids : FirstOccurrences ([t.id] ++ referring (consentParam t) tests)
        (addReferences (consentParam t) tests [t.id]) :=
      firstOccurrences_addReferences (FirstOccurrences.singleton t.id)
    obtain ⟨others, hothers⟩ := prefix_addReferences (consentParam t) tests [t.id]
    refine ⟨rfl, ⟨others, hothers.symm⟩, fun hblank => absurd hblank hparam, fun _ => hids, ?_⟩
    exact hids.nodup

theorem forall₂_withReferences (tests : List TestCase) (made : UInt32) (asking : List TestCase) :
    List.Forall₂ (CarriesConsent tests) asking
      ((fresh made asking).map (withReferences tests)) := by
  induction asking generalizing made with
  | nil => exact .nil
  | cons t rest ih =>
      exact .cons (carriesConsent_withReferences tests t _) (ih (made + 1))

end PaymentTokens

/-- **One token for each consent.** The tokens of payments are numbered one after the other, as a word of
32 bits counts, and belong, in order, to the test cases that ask for a consent: each begins with the
identifier of its test case and goes on with those that refer to the consent. -/
theorem paymentTokens_carry (tests : List TestCase) :
    (paymentTokens tests).map (·.name) =
        (List.range' 1 (paymentTokens tests).length).map
          (fun number => "paymentToken" ++ Text.paddedDecimal 4 (number % 2 ^ 32)) ∧
      List.Forall₂ (PaymentTokens.CarriesConsent tests)
        (tests.filter fun t =>
          t.context.text? PaymentTokens.requestConsentName = some "true")
        (paymentTokens tests) := by
  constructor
  · rw [paymentTokens_names]
    rfl
  · have hasking : tests.filter PaymentTokens.asksConsent =
        tests.filter fun t =>
          t.context.text? PaymentTokens.requestConsentName = some "true" := by
      refine List.filter_congr fun t _ => ?_
      rw [Bool.eq_iff_iff, PaymentTokens.asksConsent_iff, decide_eq_true_iff]
    rw [paymentTokens, hasking]
    exact PaymentTokens.forall₂_withReferences tests 0 _

/-- Two test cases ask for consents, and only the first of them keeps the identifier. Three refer to it:
two of them have one identifier, and the other has that of the test case that asks. -/
def samplePayments : List TestCase :=
  [{ id := "refunds"
     input := { method := "GET", endpoint := "/refunds" }
     context := .ofList [("consentId", .text "$consent")] },
   { id := "consent-1"
     input := { method := "POST", endpoint := "/consents" }
     context := .ofList [("requestConsent", .text "true")]
     expect := { extractions := [{ contextName := "consent", json := "Data.ConsentId" }] } },
   { id := "consent-1"
     input := { method := "GET", endpoint := "/consents" }
     context := .ofList [("consentId", .text "$consent")] },
   { id := "refunds"
     input := { method := "DELETE", endpoint := "/refunds" }
     context := .ofList [("consentId", .text "$consent")] },
   { id := "consent-2"
     input := { method := "POST", endpoint := "/consents" }
     context := .ofList [("requestConsent", .text "true")] }]

example : (paymentTokens samplePayments).map (fun t => (t.name, t.ids)) =
    [("paymentToken0001", ["consent-1", "refunds"]), ("paymentToken0002", ["consent-2"])] := by
  rfl

end Conformance
