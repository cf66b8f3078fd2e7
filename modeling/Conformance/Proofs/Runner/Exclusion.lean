import Conformance.Runner.Scene
import Mathlib.Tactic.ByContra

/-!
# One run at a time

A runner is shared by all who start runs and consent flows on it. `Runner.Scene` is a runner with
those who hold its guard; any list of moves is an interleaving of starts, of what the runs and flows
do that were started, and of what the owner does. A start takes the guard in one move and is set up in
another, so that other starts may come between the two; setting it up may fail.

`play_exclusive` says what holds after every such list: at most one start, run or flow holds the guard,
and the flag is up exactly while one does; a start is refused exactly while the flag is up; and those
that were refused or have failed might as well not have been made.
-/

namespace Conformance.Runner

namespace Scene

/-! ## Who holds the guard -/

/-- At most one holds the guard, and the flag is up exactly while one does. -/
structure Guarded (s : Scene) : Prop where
  one_holder : s.holders.length ≤ 1
  running_iff : s.runner.running = true ↔ s.holders ≠ []

variable {s t : Scene}

theorem idle_guarded (label : String) (d : RunDefinition) (schemas : Option SchemaCheck)
    (ctx : Context) (controller : Controller) (channel : Channel ConsentItem) :
    Guarded (idle label d schemas ctx controller channel) :=
  ⟨Nat.zero_le 1, iff_of_false nofun fun h => h rfl⟩

/-- What a holder may do to the guard: go on with it, or give it back. -/
inductive Acted (s : Scene) (k : Nat) : Scene → Prop
  | void : Acted s k s
  | on {t : Scene} (next : Holder) (hrunner : t.runner = s.runner)
      (hholders : t.holders = s.holders) : Acted s k (t.goOn k next)
  | back : Acted s k (s.giveBack k)

theorem act_acted [Idna] (s : Scene) (k : Nat) (holder : Holder) (a : Act) :
    Acted s k (s.act k holder a) := by
  unfold act
  split
  · split
    · exact .on _ rfl rfl
    · exact .back
  · exact .on _ rfl rfl
  · exact .on _ rfl rfl
  next role walk =>
    split
    · refine .on _ ?_ ?_ <;> cases role <;> rfl
    · exact .void
  · exact .back
  · exact .back
  · exact .void

theorem Acted.guarded {k : Nat} (hacted : Acted s k t) (h : Guarded s) (hk : k < s.holders.length) :
    Guarded t := by
  have hone := h.one_holder
  cases hacted with
  | void => exact h
  | @on t next hrunner hholders =>
      refine ⟨?_, ?_⟩
      · rw [goOn, List.length_set, hholders]
        exact hone
      · rw [goOn, hrunner, hholders, h.running_iff, ne_eq, ne_eq, List.set_eq_nil_iff]
  | back =>
      have hlength : (s.giveBack k).holders.length = 0 := by
        rw [giveBack, List.length_eraseIdx_of_lt hk]
        omega
      refine ⟨by omega, iff_of_false nofun fun hne => hne (List.length_eq_zero_iff.mp hlength)⟩

theorem Guarded.holders_eq_nil (h : Guarded s) (hfree : s.runner.running = false) :
    s.holders = [] := by
  by_contra hne
  rw [h.running_iff.mpr hne] at hfree
  cases hfree

theorem acquire_of_running {r : Runner} (h : r.running = true) :
    r.acquire = .error (.alreadyRunning r.label) := by
  rw [acquire, if_pos h]

theorem acquire_of_idle {r : Runner} (h : r.running = false) :
    r.acquire = .ok { r with running := true } := by
  rw [acquire, if_neg (by simp [h])]

theorem release_of_idle {r : Runner} (h : r.running = false) :
    ({ r with running := true } : Runner).release = r := by
  rw [release, ← h]

theorem Guarded.step [Idna] (h : Guarded s) (m : Move) : Guarded (s.step m) := by
  cases m with
  | attempt start =>
      cases hrunning : s.runner.running with
      | true =>
          simp only [Scene.step, acquire_of_running hrunning]
          exact h
      | false =>
          simp only [Scene.step, acquire_of_idle hrunning, h.holders_eq_nil hrunning]
          exact ⟨Nat.le_refl 1, iff_of_true rfl nofun⟩
  | act k a =>
      cases hholder : s.holders[k]? with
      | none =>
          simp only [Scene.step, hholder]
          exact h
      | some holder =>
          obtain ⟨hk, -⟩ := List.getElem?_eq_some_iff.mp hholder
          simp only [Scene.step, hholder]
          exact (s.act_acted k holder a).guarded h hk
  | stop => exact ⟨h.one_holder, h.running_iff⟩
  | write ctx => exact ⟨h.one_holder, h.running_iff⟩

theorem Guarded.play [Idna] (h : Guarded s) (moves : List Move) : Guarded (s.play moves) := by
  induction moves generalizing s with
  | nil => exact h
  | cons m rest ih => exact ih (h.step m)

/-! ## Starts that are refused or fail -/

/-- Whether a move is a start that is refused, or that fails when it is set up. -/
def isVain (s : Scene) : Move → Bool
  | .attempt start => s.runner.running || start.fails s.definition s.ctx
  | _ => false

theorem isVain_attempt (s : Scene) (start : Start) :
    s.isVain (.attempt start) = (s.runner.running || start.fails s.definition s.ctx) := rfl

/-- The moves without the starts that are refused or fail. -/
def fruitful [Idna] (s : Scene) : List Move → List Move
  | [] => []
  | m :: rest =>
      if s.isVain m then (s.step m).fruitful rest else m :: (s.step m).fruitful rest

/-- No failing start is being set up: those that were made have returned. -/
def Settled (s : Scene) : Prop :=
  ∀ start ctx, Holder.settingUp start ctx ∈ s.holders → start.fails s.definition ctx = false

/-- A scene when the guard has been given back. -/
def freed (s : Scene) : Scene := { s with runner := s.runner.release, holders := [] }

theorem step_act_of_none [Idna] {k : Nat} (h : s.holders[k]? = none) (a : Act) :
    s.step (.act k a) = s := by
  simp only [step, h]

/-- A start that is made while the guard is free takes it, and does nothing else. -/
theorem step_attempt [Idna] (hs : Guarded s) (hfree : s.runner.running = false) (start : Start) :
    (s.step (.attempt start)).holders = [.settingUp start s.ctx] ∧
      (s.step (.attempt start)).definition = s.definition ∧ (s.step (.attempt start)).freed = s := by
  have hnone := hs.holders_eq_nil hfree
  have hstep : s.step (.attempt start) = { s with
      runner := { s.runner with running := true }, holders := [.settingUp start s.ctx] } := by
    simp only [Scene.step, acquire_of_idle hfree, hnone, List.nil_append]
  rw [hstep]
  refine ⟨rfl, rfl, ?_⟩
  rw [freed]
  dsimp only
  rw [release_of_idle hfree, ← hnone]

/-- A start that fails gives the guard back, and does nothing else. -/
theorem step_setUp_failing [Idna] {start : Start} {ctx : Context}
    (hholders : s.holders = [.settingUp start ctx])
    (hfails : start.fails s.definition ctx = true) : s.step (.act 0 .setUp) = s.freed := by
  simp only [step, hholders, List.getElem?_cons_zero, act]
  unfold Start.fails at hfails
  cases hsetUp : start.setUp s.definition ctx with
  | ok job =>
      rw [hsetUp] at hfails
      cases hfails
  | error e =>
      dsimp only
      rw [giveBack, hholders]
      rfl

/-- So when it has returned everything is as before. -/
theorem failed_void [Idna] (hs : Guarded s) (hfree : s.runner.running = false) {start : Start}
    (hfails : start.fails s.definition s.ctx = true) :
    (s.step (.attempt start)).step (.act 0 .setUp) = s := by
  obtain ⟨hholders, hdefinition, hfreed⟩ := step_attempt hs hfree start
  rw [step_setUp_failing hholders (by rwa [hdefinition]), hfreed]

/-- How a scene may differ from one in which no start is made in vain: only while a failing start is
being set up. -/
inductive Matches (s : Scene) : Scene → Prop
  | same : Matches s s
  | failing {start : Start} {ctx : Context} (hholders : s.holders = [.settingUp start ctx])
      (hfails : start.fails s.definition ctx = true) : Matches s s.freed

/-- A failing start that is being set up does nothing until it fails. -/
theorem matches_act [Idna] {start : Start} {ctx : Context}
    (hholders : s.holders = [.settingUp start ctx])
    (hfails : start.fails s.definition ctx = true) (k : Nat) (a : Act) :
    Matches (s.step (.act k a)) s.freed := by
  cases k with
  | succ k =>
      rw [step_act_of_none (by simp [hholders])]
      exact .failing hholders hfails
  | zero =>
      cases a with
      | setUp =>
          rw [step_setUp_failing hholders hfails]
          exact .same
      | _ =>
          simp only [step, hholders, List.getElem?_cons_zero]
          exact .failing hholders hfails

/-- What a move does to a scene, it does to the one without vain starts, unless it is one. -/
theorem Matches.step [Idna] (hs : Guarded s) (h : Matches s t) (m : Move) :
    Matches (s.step m) (if s.isVain m then t else t.step m) := by
  cases h with
  | same =>
      cases m with
      | attempt start =>
          cases hrunning : s.runner.running with
          | true =>
              simp only [Scene.step, acquire_of_running hrunning, ite_self]
              exact .same
          | false =>
              rw [isVain_attempt, hrunning, Bool.false_or]
              split
              next hfails =>
                obtain ⟨hholders, hdefinition, hfreed⟩ := step_attempt hs hrunning start
                have hmatches := Matches.failing hholders (by rwa [hdefinition])
                rwa [hfreed] at hmatches
              · exact .same
      | act k a => exact .same
      | stop => exact .same
      | write ctx => exact .same
  | @failing start ctx hholders hfails =>
      have hrunning : s.runner.running = true := hs.running_iff.mpr (by simp [hholders])
      cases m with
      | attempt other =>
          simp only [isVain_attempt, hrunning, Bool.true_or, if_true, Scene.step,
            acquire_of_running hrunning]
          exact .failing hholders hfails
      | act k a =>
          have hvoid : s.freed.step (.act k a) = s.freed := step_act_of_none rfl a
          simp only [isVain, Bool.false_eq_true, if_false, hvoid]
          exact matches_act hholders hfails k a
      | stop => exact .failing hholders hfails
      | write ctx => exact .failing hholders hfails

theorem play_matches [Idna] (hs : Guarded s) (h : Matches s t) (moves : List Move) :
    Matches (s.play moves) (t.play (s.fruitful moves)) := by
  induction moves generalizing s t with
  | nil => exact h
  | cons m rest ih =>
      have hstep := ih (hs.step m) (h.step hs m)
      unfold fruitful
      split
      next hvain => rwa [if_pos hvain] at hstep
      next hvain => rwa [if_neg hvain] at hstep

/-! ## What starts are answered -/

theorem refused_iff (s : Scene) (start : Start) :
    s.reply? (.attempt start) = some (.error (.alreadyRunning s.runner.label)) ↔
      s.runner.running = true := by
  cases hrunning : s.runner.running with
  | true => simp only [reply?, acquire_of_running hrunning]
  | false => simp only [reply?, acquire_of_idle hrunning, reduceCtorEq, Bool.false_eq_true]

/-- Setting up a start does not refuse it. -/
theorem taken (s : Scene) (k : Nat) (a : Act) (label : String) :
    s.reply? (.act k a) ≠ some (.error (.alreadyRunning label)) := by
  unfold reply?
  cases a with
  | setUp =>
      dsimp only
      split
      · split <;> nofun
      · nofun
  | _ => nofun

/-! ## The guard -/

/-- What holds of a runner after some moves, when it was idle before them. -/
structure Exclusive [Idna] (start : Scene) (moves : List Move) (s : Scene) : Prop where
  /-- At most one start, run or flow holds the guard. -/
  one_holder : s.holders.length ≤ 1
  /-- The flag is up exactly while one does. -/
  running_iff : s.runner.running = true ↔ s.holders ≠ []
  /-- A start is refused at once, exactly while the flag is up. -/
  refused_iff : ∀ other, s.reply? (.attempt other) =
    some (.error (.alreadyRunning s.runner.label)) ↔ s.runner.running = true
  /-- A start that has taken the guard is not refused later. -/
  taken : ∀ k a label, s.reply? (.act k a) ≠ some (.error (.alreadyRunning label))
  /-- A start that is refused changes nothing. -/
  refused_void : s.runner.running = true → ∀ other, s.step (.attempt other) = s
  /-- One that fails has changed nothing when it returns, if nothing else has happened meanwhile. -/
  failed_void : ∀ other, s.runner.running = false → other.fails s.definition s.ctx = true →
    (s.step (.attempt other)).step (.act 0 .setUp) = s
  /-- When the starts that were refused or fail have returned, everything is as if they had not been
  made. -/
  as_without : s.Settled → s = start.play (start.fruitful moves)

/-- **One run at a time.** Whatever starts are made on a runner that is idle, whatever becomes of them
and whatever the runs and flows do that were started: at most one holds the guard at any moment, and
the flag is up exactly then; a start is refused exactly while the flag is up; and when the starts that
were refused or have failed have returned, nothing shows that they were made. -/
theorem play_exclusive [Idna] (label : String) (d : RunDefinition) (schemas : Option SchemaCheck)
    (ctx : Context) (controller : Controller) (channel : Channel ConsentItem) (moves : List Move) :
    Exclusive (idle label d schemas ctx controller channel) moves
      ((idle label d schemas ctx controller channel).play moves) := by
  have hstart := idle_guarded label d schemas ctx controller channel
  have hmatches := play_matches hstart .same moves
  have h := hstart.play moves
  generalize (idle label d schemas ctx controller channel).play moves = s at h hmatches
  refine ⟨h.one_holder, h.running_iff, s.refused_iff, s.taken, fun hrunning other => ?_,
    fun other hfree hfails => failed_void h hfree hfails, fun hsettled => ?_⟩
  · simp only [Scene.step, acquire_of_running hrunning]
  · generalize (idle label d schemas ctx controller channel).play _ = t at hmatches ⊢
    cases hmatches with
    | same => rfl
    | failing hholders hfails =>
        rw [hsettled _ _ (by rw [hholders]; exact List.mem_singleton_self _)] at hfails
        cases hfails

end Scene

end Conformance.Runner
