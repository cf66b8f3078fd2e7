import Conformance.Proofs.Consent.Waiting
import Conformance.Settings.Adjustment

/-!
# Changing settings

Settings are checked once, and may be changed afterwards. `RunSettings.adjustAll` makes any number of
changes, one after the other; of the times to wait for consents that they choose, the last one counts
(`lastTimeout?`).

Settings keep whole seconds. A time below one second is kept as none at all, and then the settings do
not pass their check any more and the time to wait is up when the wait begins. `adjustAll_serves` says
that nothing else can go wrong with a check that was passed, and when there is a deadline that lies
ahead.
-/

namespace Conformance

/-! ## Changes -/

namespace Adjustment

/-- The time to wait for consents that a change chooses, in nanoseconds. -/
def timeout? : Adjustment → Option Nat
  | .consentTimeout nanos => some nanos
  | .acquisition _ => none
  | .followRedirects _ => none

/-- The time to wait for consents that changes choose last. -/
def lastTimeout? : List Adjustment → Option Nat
  | [] => none
  | change :: rest => (lastTimeout? rest).or change.timeout?

/-- A second, in nanoseconds. -/
def second : Nat := 1000000000

/-- Changes do not end with a choice of less than a second. -/
def KeepTimeout (changes : List Adjustment) : Prop := ∀ nanos ∈ lastTimeout? changes, second ≤ nanos

instance (changes : List Adjustment) : Decidable (KeepTimeout changes) :=
  inferInstanceAs (Decidable (∀ nanos ∈ lastTimeout? changes, second ≤ nanos))

end Adjustment

/-! ## Deadlines -/

/-- An item that is sent after a wait has begun is received if it is sent before the deadline. -/
theorem waitForItems_one {deadline time : Nat} (item : ConsentItem) (htime : time ≠ 0) :
    waitForItems 1 deadline [(time, .sent item)] = settleItems [item] ↔ time < deadline := by
  by_cases hlt : time < deadline
  · have hearly := @receiveItems_early 1 deadline [] [(time, item)] []
      (by simpa using .inr hlt) (Nat.zero_le 1)
    have hwait : waitForItems 1 deadline [(time, .sent item)] = settleItems [item] :=
      congrArg Prod.fst hearly
    exact iff_of_true hwait hlt
  · have hlate := @receiveItems_late 1 deadline [] [(time, .sent item)] Nat.one_pos
      (by simpa using ⟨htime, Nat.le_of_not_lt hlt⟩)
    have hwait : waitForItems 1 deadline [(time, .sent item)] = .error (.timeout 0 1 []) :=
      congrArg Prod.fst hlate
    refine iff_of_false (fun hsettled => ?_) hlt
    rw [hwait] at hsettled
    unfold settleItems at hsettled
    dsimp only at hsettled
    split at hsettled <;> cases hsettled

namespace RunSettings

open Adjustment

theorem exists_deadline_iff (s : RunSettings) (c : Clock) :
    (∃ d, s.deadline? c = some d ∧ c.now < d) ↔
      0 < s.consentTimeoutSecs ∧ c.now + s.consentTimeout ≤ c.last := by
  have hahead : c.now < c.now + s.consentTimeout ↔ 0 < s.consentTimeoutSecs := by
    unfold consentTimeout
    omega
  unfold deadline? Clock.ahead?
  constructor
  · rintro ⟨d, hd, hlt⟩
    obtain ⟨hlast, hd⟩ := Option.ite_none_right_eq_some.mp hd
    cases hd
    exact ⟨hahead.mp hlt, hlast⟩
  · rintro ⟨hpos, hlast⟩
    exact ⟨_, if_pos hlast, hahead.mpr hpos⟩

/-! ## The check after changes -/

/-- What is checked apart from the time to wait for consents. -/
def RestValid (s : RunSettings) : Prop :=
  s.requestTimeoutSecs ≠ 0 ∧ ∀ t ∈ s.transport, pairedMaterial t = true

theorem validate_eq_ok_iff {s : RunSettings} :
    s.validate = .ok () ↔ s.consentTimeoutSecs ≠ 0 ∧ s.RestValid := by
  unfold validate RestValid
  by_cases hconsent : s.consentTimeoutSecs = 0
  · simp [hconsent]
  · by_cases hrequest : s.requestTimeoutSecs = 0
    · simp [hconsent, hrequest]
    · cases s.transport <;> simp [hconsent, hrequest]

/-- One change leaves alone what it does not choose. -/
theorem adjust_frame (s : RunSettings) (change : Adjustment) :
    (s.adjust change).requestTimeoutSecs = s.requestTimeoutSecs ∧
      (s.adjust change).transport = s.transport ∧ (s.adjust change).logging = s.logging ∧
      (s.adjust change).consentTimeoutSecs =
        change.timeout?.elim s.consentTimeoutSecs (· / second) := by
  cases change <;> exact ⟨rfl, rfl, rfl, rfl⟩

/-- What settings are after changes. -/
structure Adjusted (s : RunSettings) (changes : List Adjustment) (s' : RunSettings) : Prop where
  /-- The time to wait for a response is as before. -/
  request : s'.requestTimeoutSecs = s.requestTimeoutSecs
  /-- So is the connection. -/
  transport : s'.transport = s.transport
  /-- So is what is logged. -/
  logging : s'.logging = s.logging
  /-- The time to wait for consents is the one that was chosen last, without parts of a second. -/
  consent : s'.consentTimeoutSecs = (lastTimeout? changes).elim s.consentTimeoutSecs (· / second)

theorem adjusted_adjustAll (s : RunSettings) (changes : List Adjustment) :
    Adjusted s changes (s.adjustAll changes) := by
  induction changes generalizing s with
  | nil => exact ⟨rfl, rfl, rfl, rfl⟩
  | cons change rest ih =>
      obtain ⟨hrequest, htransport, hlogging, hconsent⟩ := s.adjust_frame change
      have hrest := ih (s.adjust change)
      refine ⟨hrest.request.trans hrequest, hrest.transport.trans htransport,
        hrest.logging.trans hlogging, hrest.consent.trans ?_⟩
      rw [lastTimeout?]
      cases lastTimeout? rest with
      | none => exact hconsent
      | some nanos => rfl

theorem Adjusted.restValid_iff {s s' : RunSettings} {changes : List Adjustment}
    (h : Adjusted s changes s') : s'.RestValid ↔ s.RestValid := by
  unfold RestValid
  rw [h.request, h.transport]

/-- Settings that wait for consents go on to do so if and only if the changes keep a whole second. -/
theorem Adjusted.consent_pos_iff {s s' : RunSettings} {changes : List Adjustment}
    (h : Adjusted s changes s') (hs : 0 < s.consentTimeoutSecs) :
    0 < s'.consentTimeoutSecs ↔ KeepTimeout changes := by
  rw [h.consent, KeepTimeout]
  cases lastTimeout? changes with
  | none => simpa using hs
  | some nanos =>
      have hdiv : 0 < nanos / second ↔ second ≤ nanos := by
        unfold second
        omega
      simpa using hdiv

/-- What a check and a wait make of settings after changes. -/
structure Serves (changes : List Adjustment) (s : RunSettings) : Prop where
  /-- The check is passed unless less than a second was chosen last, and fails for that reason only. -/
  validate_eq : s.validate = if KeepTimeout changes then .ok () else .error .noConsentTimeout
  /-- A deadline that the clock can tell lies ahead under the same condition. -/
  deadline_iff : ∀ c : Clock, (∃ d, s.deadline? c = some d ∧ c.now < d) ↔
    KeepTimeout changes ∧ c.now + s.consentTimeout ≤ c.last
  /-- Under it, too, an item that is sent just after the wait has begun is received. -/
  wait_iff : ∀ item, waitForItems 1 s.consentTimeout [(1, .sent item)] = settleItems [item] ↔
    KeepTimeout changes

/-- **Checked settings stay good unless less than a second is chosen.** After any changes, settings that
passed their check pass it again and give a deadline ahead (if the clock can tell it) if and only if the
last choice of a time to wait, if there is one, was of a second or more. -/
theorem adjustAll_serves {s : RunSettings} (h : s.validate = .ok ()) (changes : List Adjustment) :
    Adjusted s changes (s.adjustAll changes) ∧ Serves changes (s.adjustAll changes) := by
  obtain ⟨hconsent, hrest⟩ := validate_eq_ok_iff.mp h
  have hadjusted := s.adjusted_adjustAll changes
  have hpos := hadjusted.consent_pos_iff (Nat.pos_of_ne_zero hconsent)
  refine ⟨hadjusted, ?_, fun c => ?_, fun item => ?_⟩
  · split
    next hkeep =>
      exact validate_eq_ok_iff.mpr
        ⟨Nat.ne_of_gt (hpos.mpr hkeep), hadjusted.restValid_iff.mpr hrest⟩
    next hkeep =>
      have hzero : (s.adjustAll changes).consentTimeoutSecs = 0 :=
        Nat.eq_zero_of_not_pos fun hlt => hkeep (hpos.mp hlt)
      rw [validate, if_pos hzero]
  · rw [exists_deadline_iff, hpos]
  · rw [waitForItems_one item Nat.one_ne_zero, ← hpos]
    unfold consentTimeout
    omega

/-- The usual settings after a choice of a second and a half, and of redirects. -/
theorem adjustAll_serves_usual :
    validate {} = .ok () ∧
      (adjustAll {} [.consentTimeout 1500000000, .followRedirects true]).validate = .ok () ∧
      (adjustAll {} [.consentTimeout 1500000000, .followRedirects true]).deadline?
        ⟨7, Nat.pow 2 64⟩ = some 1000000007 ∧
      Adjusted {} [.consentTimeout 1500000000, .followRedirects true]
        (adjustAll {} [.consentTimeout 1500000000, .followRedirects true]) ∧
      Serves [.consentTimeout 1500000000, .followRedirects true]
        (adjustAll {} [.consentTimeout 1500000000, .followRedirects true]) :=
  ⟨rfl, by decide, by decide, adjustAll_serves rfl _⟩

/-- Half a second is a time to wait, but the usual settings fail their check with it, and the wait is
over when it begins. -/
theorem half_second_refused :
    validate {} = .ok () ∧ 0 < 500000000 ∧
      (adjustAll {} [.consentTimeout 500000000]).validate = .error .noConsentTimeout ∧
      ∀ c : Clock, ¬ ∃ d, (adjustAll {} [.consentTimeout 500000000]).deadline? c = some d ∧
        c.now < d :=
  ⟨rfl, by decide, by decide, fun c h => absurd ((exists_deadline_iff _ c).mp h).1 (by decide)⟩

end RunSettings

end Conformance
