import Conformance.Reporting

/-!
# Results that are reported in parallel

A flow reports a result in two moves: the result is forwarded on the stream, and then it is kept.
`Reporting` is a controller to which several flows report, each one result after the other; any list
of moves is an interleaving of what the flows do with what the owner receives.

`delivered_merges` says what holds once all results are reported: the stream has delivered and the
controller has kept the results of all flows, each flow's in its order. Both have one order if no
flow forwards a result while that of another one is not yet kept. Otherwise they need not have:
`overlapping_reports` are two results that are delivered in one order and kept in the other.
-/

namespace Conformance

/-! ## Merging lists -/

/-- Whether a list has the elements of several lists, each of which keeps its order. -/
inductive Merges {α : Type} : List (List α) → List α → Prop
  /-- Nothing is left in any list. -/
  | done {parts : List (List α)} (hempty : ∀ part ∈ parts, part = []) : Merges parts []
  /-- The first element of one of the lists comes next. -/
  | next {parts : List (List α)} {k : Nat} {a : α} {rest merged : List α}
      (hpart : parts[k]? = some (a :: rest)) (hmerged : Merges (parts.set k rest) merged) :
      Merges parts (a :: merged)

/-- A list before and after one of its elements is replaced. -/
theorem set_split {α : Type} {l : List α} {k : Nat} {a : α} (h : l[k]? = some a) (b : α) :
    ∃ before after, l = before ++ a :: after ∧ l.set k b = before ++ b :: after := by
  obtain ⟨hk, rfl⟩ := List.getElem?_eq_some_iff.mp h
  obtain ⟨before, after, hl, -, hset⟩ := List.exists_of_set hk
  exact ⟨before, after, hl, hset⟩

theorem flatten_set_perm {α : Type} {parts : List (List α)} {k : Nat} {a : α} {rest : List α}
    (h : parts[k]? = some (a :: rest)) : (a :: (parts.set k rest).flatten).Perm parts.flatten := by
  obtain ⟨before, after, hparts, hset⟩ := set_split h rest
  rw [hset, hparts, List.flatten_append, List.flatten_append]
  exact List.perm_middle.symm

theorem Merges.perm {α : Type} {parts : List (List α)} {merged : List α} (h : Merges parts merged) :
    merged.Perm parts.flatten := by
  induction h with
  | done hempty =>
      rw [List.flatten_eq_nil_iff.mpr hempty]
  | next hpart _ ih => exact (ih.cons _).trans (flatten_set_perm hpart)

namespace Reporting

/-! ## What a move does -/

/-- What comes of one move while someone listens to the stream. -/
inductive Stepped (s : Reporting) : Move → Reporting → Prop
  /-- A result is forwarded. -/
  | forwarded {k : Nat} {r : TestResult} {rest : List TestResult} {s' : Reporting}
      (hk : s.reporters[k]? = some ⟨none, r :: rest⟩)
      (hreporters : s'.reporters = s.reporters.set k ⟨some r, rest⟩)
      (hdelivered : s'.delivered = s.delivered ++ [r])
      (hresults : s'.controller.results = s.controller.results) : Stepped s (.forward k) s'
  /-- A result is kept. -/
  | recorded {k : Nat} {r : TestResult} {rest : List TestResult} {s' : Reporting}
      (hk : s.reporters[k]? = some ⟨some r, rest⟩)
      (hreporters : s'.reporters = s.reporters.set k ⟨none, rest⟩)
      (hdelivered : s'.delivered = s.delivered)
      (hresults : s'.controller.results = s.controller.results ++ [r]) : Stepped s (.record k) s'
  /-- Nothing is reported. -/
  | quiet {m : Move} {s' : Reporting} (hreporters : s'.reporters = s.reporters)
      (hdelivered : s'.delivered = s.delivered)
      (hresults : s'.controller.results = s.controller.results) : Stepped s m s'

theorem isListening_iff {c : Controller} :
    c.isListening = true ↔ ∃ waiting, c.stream = .listening waiting := by
  unfold Controller.isListening
  cases c.stream <;> simp

/-- What a move comes to, and that someone still listens to the stream. -/
theorem stepped {s : Reporting} (m : Move) (hlive : s.controller.isListening = true) :
    Stepped s m (s.step m) ∧ (s.step m).controller.isListening = true := by
  obtain ⟨waiting, hstream⟩ := isListening_iff.mp hlive
  cases m with
  | forward k =>
      simp only [step]
      split
      next r rest hk =>
        have hforward : (s.controller.forward r).stream = .listening (waiting ++ [r]) := by
          simp only [Controller.forward, hstream]
        refine ⟨.forwarded hk rfl ?_ rfl, isListening_iff.mpr ⟨_, hforward⟩⟩
        simp only [delivered, hforward, hstream, ResultStream.waiting, List.append_assoc]
      next => exact ⟨.quiet rfl rfl rfl, hlive⟩
  | record k =>
      simp only [step]
      split
      next r rest hk => exact ⟨.recorded hk rfl rfl rfl, hlive⟩
      next => exact ⟨.quiet rfl rfl rfl, hlive⟩
  | receive =>
      cases waiting with
      | nil =>
          have hreceive : s.controller.receive = (none, s.controller) := by
            simp only [Controller.receive, hstream]
          simp only [step, hreceive]
          exact ⟨.quiet rfl (by simp [delivered]) rfl, hlive⟩
      | cons r rest =>
          have hreceive :
              s.controller.receive = (some r, { s.controller with stream := .listening rest }) := by
            simp only [Controller.receive, hstream]
          simp only [step, hreceive]
          exact ⟨.quiet rfl (by simp [delivered, hstream, ResultStream.waiting]) rfl,
            isListening_iff.mpr ⟨rest, rfl⟩⟩

/-- A flow that forwards its next result and then keeps it has reported it. -/
theorem step_forward_record {s : Reporting} {k : Nat} {r : TestResult} {rest : List TestResult}
    (hk : s.reporters[k]? = some ⟨none, r :: rest⟩) :
    (s.step (.forward k)).step (.record k) =
      { s with
        controller := s.controller.report r
        reporters := s.reporters.set k ⟨none, rest⟩ } := by
  obtain ⟨hlt, -⟩ := List.getElem?_eq_some_iff.mp hk
  have hnext : (s.reporters.set k ⟨some r, rest⟩)[k]? = some ⟨some r, rest⟩ := by
    rw [List.getElem?_set_self hlt]
  simp only [step, hk, hnext, List.set_set]
  rfl

/-! ## Each flow's results in their order -/

/-- How a log goes on with a move: it stays, or takes in the first result that a flow owes it. -/
inductive Logs (log : Reporting → List TestResult) (owed : Reporter → List TestResult)
    (s s' : Reporting) : Prop
  | same (hlog : log s' = log s) (howed : s'.reporters.map owed = s.reporters.map owed)
  | entry {k : Nat} {r : TestResult} {rest : List TestResult}
      (hk : (s.reporters.map owed)[k]? = some (r :: rest)) (hlog : log s' = log s ++ [r])
      (howed : s'.reporters.map owed = (s.reporters.map owed).set k rest)

/-- A log takes in what the flows owe it, each flow's results in their order. -/
theorem play_merges {log : Reporting → List TestResult} {owed : Reporter → List TestResult}
    (hlogs : ∀ s m, s.controller.isListening = true → Logs log owed s (s.step m))
    {s : Reporting} (hlive : s.controller.isListening = true) {moves : List Move}
    (hdone : ∀ q ∈ (s.play moves).reporters, owed q = []) :
    ∃ later, log (s.play moves) = log s ++ later ∧ Merges (s.reporters.map owed) later := by
  induction moves generalizing s with
  | nil =>
      refine ⟨[], (List.append_nil _).symm, .done ?_⟩
      intro part hpart
      obtain ⟨q, hq, rfl⟩ := List.mem_map.mp hpart
      exact hdone q hq
  | cons m rest ih =>
      obtain ⟨later, hlater, hmerges⟩ := ih (stepped m hlive).2 hdone
      have hplay : s.play (m :: rest) = (s.step m).play rest := rfl
      rw [hplay, hlater]
      cases hlogs s m hlive with
      | same hlog howed => exact ⟨later, by rw [hlog], howed ▸ hmerges⟩
      | @entry k r _ hk hlog howed =>
          -- The entry is the head of what its flow owes; what comes later merges the rest.
          refine ⟨r :: later, by rw [hlog, List.append_assoc]; rfl, .next hk ?_⟩
          exact howed ▸ hmerges

theorem map_set_of_same {owed : Reporter → List TestResult} {reporters : List Reporter} {k : Nat}
    {q q' : Reporter} (hk : reporters[k]? = some q) (h : owed q' = owed q) :
    (reporters.set k q').map owed = reporters.map owed := by
  obtain ⟨before, after, hreporters, hset⟩ := set_split hk q'
  rw [hset, hreporters, List.map_append, List.map_append, List.map_cons, List.map_cons, h]

theorem logs_delivered (s : Reporting) (m : Move) (hlive : s.controller.isListening = true) :
    Logs delivered Reporter.ahead s (s.step m) := by
  cases (stepped m hlive).1 with
  | @forwarded k r rest _ hk hreporters hdelivered hresults =>
      have howed : (s.reporters.map Reporter.ahead)[k]? = some (r :: rest) := by
        rw [List.getElem?_map, hk]
        rfl
      apply Logs.entry howed hdelivered
      rw [hreporters, List.map_set]
  | @recorded k r rest _ hk hreporters hdelivered hresults =>
      apply Logs.same hdelivered
      rw [hreporters]
      exact map_set_of_same hk rfl
  | quiet hreporters hdelivered hresults => exact .same hdelivered (by rw [hreporters])

theorem logs_results (s : Reporting) (m : Move) (hlive : s.controller.isListening = true) :
    Logs (fun s => s.controller.results) Reporter.unkept s (s.step m) := by
  cases (stepped m hlive).1 with
  | @forwarded k r rest _ hk hreporters hdelivered hresults =>
      apply Logs.same hresults
      rw [hreporters]
      exact map_set_of_same hk rfl
  | @recorded k r rest _ hk hreporters hdelivered hresults =>
      have howed : (s.reporters.map Reporter.unkept)[k]? = some (r :: rest) := by
        rw [List.getElem?_map, hk]
        rfl
      apply Logs.entry howed hresults
      rw [hreporters, List.map_set]
      rfl
  | quiet hreporters hdelivered hresults => exact .same hresults (by rw [hreporters])

/-! ## One order for both -/

/-- What was delivered and kept, as long as results are kept one by one. -/
structure InStep (s : Reporting) : Prop where
  /-- At most one result is forwarded and not yet kept. -/
  one : s.underway.length ≤ 1
  /-- All other results that were delivered are kept, in the order of the stream. -/
  same_order : s.delivered = s.controller.results ++ s.underway

/-- What is underway before and after a flow forwards or keeps a result. -/
theorem underway_split {s s' : Reporting} {k : Nat} {q q' : Reporter}
    (hk : s.reporters[k]? = some q) (hreporters : s'.reporters = s.reporters.set k q') :
    ∃ before after, s.underway = before ++ q.underway.toList ++ after ∧
      s'.underway = before ++ q'.underway.toList ++ after := by
  obtain ⟨before, after, hbefore, hafter⟩ := set_split hk q'
  refine ⟨before.filterMap Reporter.underway, after.filterMap Reporter.underway, ?_, ?_⟩
  · rw [underway, hbefore, List.filterMap_append, List.filterMap_cons]
    cases q.underway <;> simp
  · rw [underway, hreporters, hafter, List.filterMap_append, List.filterMap_cons]
    cases q'.underway <;> simp

theorem InStep.step {s s' : Reporting} {m : Move} (h : InStep s) (hstepped : Stepped s m s')
    (hforward : ∀ k, m = .forward k → s.underway = []) : InStep s' := by
  cases hstepped with
  | @forwarded k r rest _ hk hreporters hdelivered hresults =>
      obtain ⟨before, after, hbefore, hafter⟩ := underway_split hk hreporters
      have hnone : before = [] ∧ after = [] := by
        simpa [hforward k rfl] using hbefore
      have hone : s'.underway = [r] := by
        simpa [hnone] using hafter
      refine ⟨by simp [hone], ?_⟩
      rw [hdelivered, h.same_order, hforward k rfl, hresults, hone, List.append_nil]
  | @recorded k r rest _ hk hreporters hdelivered hresults =>
      obtain ⟨before, after, hbefore, hafter⟩ := underway_split hk hreporters
      -- Only one result is underway, so the one that is kept now is the one that the log lacks.
      have hnone : before = [] ∧ after = [] := by
        have hlen := h.one
        rw [hbefore] at hlen
        simp only [List.length_append, Option.toList_some, List.length_singleton] at hlen
        constructor <;> apply List.eq_nil_of_length_eq_zero <;> omega
      have hempty : s'.underway = [] := by
        simpa [hnone] using hafter
      have hone : s.underway = [r] := by
        simpa [hnone] using hbefore
      refine ⟨by simp [hempty], ?_⟩
      rw [hdelivered, h.same_order, hone, hresults, hempty, List.append_nil]
  | quiet hreporters hdelivered hresults =>
      have hsame : s'.underway = s.underway := by
        rw [underway, hreporters, underway]
      exact ⟨hsame ▸ h.one, by rw [hdelivered, hresults, hsame, h.same_order]⟩

theorem InStep.play {s : Reporting} (h : InStep s) (hlive : s.controller.isListening = true)
    {moves : List Move} (hsequential : s.isSequential moves = true) : InStep (s.play moves) := by
  induction moves generalizing s with
  | nil => exact h
  | cons m rest ih =>
      obtain ⟨hstepped, hlive'⟩ := stepped m hlive
      cases m with
      | forward k =>
          rw [isSequential, Bool.and_eq_true, List.isEmpty_iff] at hsequential
          exact ih (h.step hstepped fun _ _ => hsequential.1) hlive' hsequential.2
      | record k => exact ih (h.step hstepped nofun) hlive' hsequential
      | receive => exact ih (h.step hstepped nofun) hlive' hsequential

/-! ## What is delivered and what is kept -/

theorem unkept_of_isDone {s : Reporting} (h : s.isDone = true) :
    ∀ q ∈ s.reporters, q.unkept = [] := by
  intro q hq
  exact List.isEmpty_iff.mp (List.all_eq_true.mp h q hq)

theorem underway_of_isDone {s : Reporting} (h : s.isDone = true) : s.underway = [] := by
  apply List.filterMap_eq_nil_iff.mpr
  intro q hq
  have hunkept := unkept_of_isDone h q hq
  rw [Reporter.unkept, List.append_eq_nil_iff] at hunkept
  exact Option.toList_eq_nil_iff.mp hunkept.1

theorem map_start (flows : List (List TestResult)) {owed : Reporter → List TestResult}
    (howed : ∀ results, owed { ahead := results } = results) :
    (start flows).reporters.map owed = flows := by
  rw [start, List.map_map]
  exact List.map_id'' howed flows

/-- Once all results are reported, the stream has delivered and the controller has kept the results
of all flows, each flow's in its order. The two have one order when every result is kept before the
next one is forwarded. -/
theorem delivered_merges (flows : List (List TestResult)) (moves : List Move)
    (hdone : ((start flows).play moves).isDone = true) :
    Merges flows ((start flows).play moves).delivered ∧
      Merges flows ((start flows).play moves).controller.results ∧
      ((start flows).play moves).delivered.Perm ((start flows).play moves).controller.results ∧
      ((start flows).isSequential moves = true →
        ((start flows).play moves).delivered = ((start flows).play moves).controller.results) := by
  have hlive : (start flows).controller.isListening = true := rfl
  have hunkept := unkept_of_isDone hdone
  have hahead : ∀ q ∈ ((start flows).play moves).reporters, q.ahead = [] := by
    intro q hq
    exact (List.append_eq_nil_iff.mp (hunkept q hq)).2
  obtain ⟨later, hlater, hdelivered⟩ := play_merges logs_delivered hlive hahead
  obtain ⟨kept, hkept, hresults⟩ := play_merges logs_results hlive hunkept
  rw [map_start flows fun _ => rfl] at hdelivered hresults
  have hlater' : ((start flows).play moves).delivered = later := hlater
  have hkept' : ((start flows).play moves).controller.results = kept := hkept
  rw [hlater', hkept']
  refine ⟨hdelivered, hresults, hdelivered.perm.trans hresults.perm.symm, ?_⟩
  intro hsequential
  have hstart : InStep (start flows) := by
    have hnone : (start flows).underway = [] := by
      simp [underway, start]
    exact ⟨by simp [hnone], by rw [hnone]; rfl⟩
  have hend := (hstart.play hlive hsequential).same_order
  rw [underway_of_isDone hdone, List.append_nil] at hend
  rw [← hlater', ← hkept', hend]

/-- A result that tells only which test case it is of. -/
def sampleResult (id : String) : TestResult := { (default : TestResult) with id }

/-- Two flows of which the first one has two results to report. -/
def sampleFlows : List (List TestResult) :=
  [[sampleResult "a", sampleResult "c"], [sampleResult "b"]]

/-- Results that are kept one by one while others are received. -/
def oneByOne : List Move :=
  [.forward 0, .record 0, .forward 1, .receive, .record 1, .receive, .forward 0, .record 0]

theorem oneByOne_same_order :
    ((start sampleFlows).play oneByOne).isDone = true ∧
      Merges sampleFlows ((start sampleFlows).play oneByOne).delivered ∧
      ((start sampleFlows).play oneByOne).delivered =
        ((start sampleFlows).play oneByOne).controller.results := by
  have hdone : ((start sampleFlows).play oneByOne).isDone = true := by
    decide
  obtain ⟨hmerges, -, -, hsame⟩ := delivered_merges sampleFlows oneByOne hdone
  exact ⟨hdone, hmerges, hsame (by decide)⟩

/-- The last two results, the first of which is forwarded first and kept last. -/
def overlapping : List Move :=
  [.forward 0, .record 0, .forward 0, .forward 1, .record 1, .record 0]

/-- Two results may be delivered in one order and kept in the other. -/
theorem overlapping_reports :
    ((start sampleFlows).play overlapping).isDone = true ∧
      ((start sampleFlows).play overlapping).delivered.map TestResult.id = ["a", "c", "b"] ∧
      ((start sampleFlows).play overlapping).controller.results.map TestResult.id =
        ["a", "b", "c"] ∧
      ((start sampleFlows).play overlapping).delivered ≠
        ((start sampleFlows).play overlapping).controller.results := by
  refine ⟨by decide, by decide, by decide, ?_⟩
  intro hsame
  have hids := congrArg (List.map TestResult.id) hsame
  revert hids
  decide

end Reporting

end Conformance
