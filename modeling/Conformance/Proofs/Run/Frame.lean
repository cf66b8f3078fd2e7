import Conformance.Proofs.Context
import Conformance.Proofs.Request.Prepare
import Conformance.Proofs.Run.Course

/-!
# What a run leaves in its context

A run never takes a name out of the context that it was started with, and sets a name for one of few
reasons: `Trial.Writes` lists those of a test case, `RunDefinition.Written` those of a run.
`play_frame` says so of the shared context at every moment of a run, and so of the one that it ends
with.
-/

namespace Conformance

/-- What stands in a list stands at the same place in a list that begins with it. -/
theorem List.getElem?_of_prefix {α : Type} {l l' : List α} (h : l <+: l') {i : Nat} {a : α}
    (ha : l[i]? = some a) : l'[i]? = some a := by
  obtain ⟨hi, rfl⟩ := List.getElem?_eq_some_iff.mp ha
  exact List.prefix_iff_getElem?.mp h i hi

/-! ## One test case -/

/-- Why a test case sets a name. -/
inductive Trial.Writes (t : Trial) (schemas : Option SchemaCheck) (a : Answer) : String → Prop
  /-- Preparing it has made the URL at which a consent is authorised. -/
  | consentUrl (hstrategy : t.test.input.generation.get? "strategy" = some "consenturl") :
      t.Writes schemas a Context.consentUrlName
  /-- Preparing it has made an assertion. -/
  | assertion (hstrategy : t.test.input.generation.get? "strategy" = some "jwt-bearer") :
      t.Writes schemas a Context.assertionName
  /-- Its response has met the expected status, rules and schema, and one of its extractions has the
  name. -/
  | extracted {x : Exchange} {rule : MatchRule} (hanswer : a = .ok x)
      (hmet : t.test.expect.violations x.response t.ctx schemas = [])
      (hrule : rule ∈ t.test.expect.extractions) (hname : rule.contextName ≠ "") :
      t.Writes schemas a rule.contextName

open Context (Grows)

/-- Extractions set the names of their rules. -/
theorem Expect.grows_extract {kind : String → Prop} (response : Response) (body : Option Json)
    {rules : List MatchRule}
    (hkind : ∀ rule ∈ rules, rule.contextName ≠ "" → kind rule.contextName) (ctx : Context) :
    Grows kind ctx (extract response body rules ctx).2 := by
  induction rules generalizing ctx with
  | nil => exact .refl kind ctx
  | cons rule rest ih =>
      obtain ⟨hrule, hrest⟩ := List.forall_mem_cons.mp hkind
      unfold extract
      split
      · exact ih hrest ctx
      next hname =>
        split
        next value _ => exact (Context.grows_putText ctx (hrule hname) value).trans (ih hrest _)
        · exact ih hrest ctx

namespace Trial

variable {t : Trial} {ctx : Context}

theorem grows_prepare [Idna] (hprepare : t.test.prepare ctx = .ok (t.request, t.ctx))
    (schemas : Option SchemaCheck) (a : Answer) : Grows (t.Writes schemas a) ctx t.ctx := by
  rcases TestCase.prepare_ctx_cases hprepare with
    heq | ⟨hstrategy, heq⟩ | ⟨hstrategy, assertion, heq⟩ <;> rw [heq]
  · exact .refl _ ctx
  · exact Context.grows_putText ctx (.consentUrl hstrategy) _
  · exact Context.grows_putText ctx (.assertion hstrategy) _

theorem grows_conclude (t : Trial) (schemas : Option SchemaCheck) (a : Answer) :
    Grows (t.Writes schemas a) t.ctx (t.conclude schemas a).2 := by
  cases a with
  | error e => exact .refl _ t.ctx
  | ok x =>
      have hctx : (t.conclude schemas (.ok x)).2 =
          (t.test.expect.validate x.response t.ctx schemas).2 := by
        unfold conclude TestCase.validate
        dsimp only
        split <;> rfl
      rw [hctx, Expect.validate]
      split
      next hmet =>
        exact Expect.grows_extract x.response _
          (fun rule hrule hname => .extracted rfl (List.isEmpty_iff.mp hmet) hrule hname) t.ctx
      · exact .refl _ t.ctx

end Trial

namespace RunDefinition

open Course (Stands Stepped)

variable [Idna]

/-! ## A run -/

/-- Why a name has a value that it did not have before the run. -/
inductive Written (d : RunDefinition) (ctx : Context) (c : Course) : String → Prop
  /-- It is the key of the definition, since the starting context has none. -/
  | seeded {key : SigningKey} (hkey : d.signingKey = some key)
      (hnone : ctx.contains Context.signingKeyName = false) : Written d ctx c Context.signingKeyName
  /-- A test case of the suite, whose request was prepared, sent and answered, has set it. -/
  | byTest {i : Nat} {trial : Trial} {a : Answer} {current : Context} {k : String}
      (htest : trial.test ∈ d.suite.testCases)
      (hprepare : trial.test.prepare current = .ok (trial.request, trial.ctx))
      (hsent : c.course.sent[i]? = some trial) (hanswer : c.course.answers[i]? = some a)
      (hwrites : trial.Writes c.schemas a k) : Written d ctx c k

variable {d : RunDefinition} {ctx : Context} {owner : Controller} {c c' : Course}

/-- The key of the definition is put under the values of the starting context. -/
theorem grows_privateContext (d : RunDefinition) (ctx : Context) (c : Course) :
    Grows (Written d ctx c) ctx (d.privateContext ctx) := by
  unfold privateContext
  cases hkey : d.signingKey with
  | none => exact Context.grows_overlay fun k _ hk => by cases hk
  | some key =>
      refine Context.grows_overlay fun k hnone hk => ?_
      unfold Context.contains KeyMap.contains Context.put at hk
      rw [KeyMap.get?_put] at hk
      split at hk
      next heq =>
        subst heq
        exact .seeded hkey hnone
      · cases hk

/-- What a move does to the walk of a run. -/
theorem Course.Stepped.course_cases {m : Course.Move} (h : Stepped c m c') :
    c'.schemas = c.schemas ∧ (c'.course = c.course ∨
      (∃ stopped, c'.course = c.course.step (.advance stopped)) ∨
      ∃ trial rest a, c.course.walk.place = .at trial rest ∧
        c'.course = c.course.step (.receive c.schemas a)) := by
  cases h with
  | void => exact ⟨rfl, .inl rfl⟩
  | stopped => exact ⟨rfl, .inl rfl⟩
  | looked => exact ⟨rfl, .inl rfl⟩
  | exhausted => exact ⟨rfl, .inr (.inl ⟨_, rfl⟩)⟩
  | advanced => exact ⟨rfl, .inr (.inl ⟨_, rfl⟩)⟩
  | answered hplace => exact ⟨rfl, .inr (.inr ⟨_, _, _, hplace, rfl⟩)⟩
  | completed => exact ⟨rfl, .inl rfl⟩

theorem Course.Stepped.history {m : Course.Move} (h : Stepped c m c') :
    c.course.sent <+: c'.course.sent ∧ c.course.answers <+: c'.course.answers := by
  obtain ⟨-, heq | ⟨_, heq⟩ | ⟨_, _, _, -, heq⟩⟩ := h.course_cases <;> rw [heq]
  · exact ⟨List.prefix_rfl, List.prefix_rfl⟩
  · exact c.course.history_step _
  · exact c.course.history_step _

/-- What has been written stays so. -/
theorem Written.step {m : Course.Move} (hstep : Stepped c m c') {k : String}
    (h : Written d ctx c k) : Written d ctx c' k := by
  cases h with
  | seeded hkey hnone => exact .seeded hkey hnone
  | @byTest i _ _ _ _ htest hprepare hsent hanswer hwrites =>
      rw [← hstep.course_cases.1] at hwrites
      exact .byTest htest hprepare (List.getElem?_of_prefix hstep.history.1 hsent)
        (List.getElem?_of_prefix hstep.history.2 hanswer) hwrites

/-- What an answer has changed was written by the test case at whose request the run rested. -/
theorem grows_answered (h : Stands d ctx owner c) {trial : Trial} {rest : List TestCase}
    (hplace : c.course.walk.place = .at trial rest) (a : Answer) (hschemas : c'.schemas = c.schemas)
    (hcourse : c'.course = c.course.step (.receive c.schemas a)) :
    Grows (Written d ctx c') c.course.walk.ctx c'.course.walk.ctx := by
  obtain ⟨htest, hbegin, hsent⟩ := h.walk.at_request hplace
  have hprepare := (TestCase.begin_ok hbegin).2
  have hwalk : c'.course.walk.ctx = (trial.conclude c.schemas a).2 := by
    rw [hcourse]
    simp [Walk.Course.step, hplace, Walk.receive_at hplace, Walk.leave]
  have hanswer : c'.course.answers[c.course.answers.length]? = some a := by
    rw [hcourse]
    simp [Walk.Course.step, hplace]
  have hsent' : c'.course.sent[c.course.answers.length]? = some trial := by
    rw [hcourse]
    exact List.getElem?_of_prefix (c.course.history_step _).1 hsent
  have hwrites : ∀ k, trial.Writes c.schemas a k → Written d ctx c' k := fun k hk =>
    .byTest htest hprepare hsent' hanswer (by rwa [hschemas])
  rw [hwalk]
  exact ((trial.grows_prepare hprepare c.schemas a).trans (trial.grows_conclude c.schemas a)).mono
    hwrites

/-- The frame of a move. -/
theorem grows_step (h : Stands d ctx owner c) {m : Course.Move} (hstep : Stepped c m c')
    (hframe : Grows (Written d ctx c) ctx c.course.walk.ctx) :
    Grows (Written d ctx c') ctx c'.course.walk.ctx := by
  have hbefore : Grows (Written d ctx c') ctx c.course.walk.ctx :=
    hframe.mono fun _ hk => hk.step hstep
  obtain ⟨hschemas, heq | ⟨stopped, heq⟩ | ⟨trial, rest, a, hplace, heq⟩⟩ := hstep.course_cases
  · rwa [heq]
  · rwa [heq, Walk.Course.ctx_step_advance]
  · exact hbefore.trans (grows_answered h hplace a hschemas heq)

theorem grows_play (h : Stands d ctx owner c) (hframe : Grows (Written d ctx c) ctx c.course.walk.ctx)
    (moves : List Course.Move) :
    Grows (Written d ctx (c.play moves)) ctx (c.play moves).course.walk.ctx := by
  induction moves generalizing c with
  | nil => exact hframe
  | cons m rest ih =>
      have hstep := c.step_cases m
      exact ih (h.stepped hstep) (grows_step h hstep hframe)

/-- **The frame of a run.** Whatever the suite and the context that a run begins with, whatever the
answers to its requests and whenever its owner asks it to stop: the shared context still has every name
that it began with, and a name that is new or has another value was seeded with the key of the
definition, or set by a test case that was executed, for one of the reasons of such. -/
theorem play_frame (d : RunDefinition) (ctx : Context) (schemas : Option SchemaCheck)
    (owner : Controller) (moves : List Course.Move) :
    Grows (Written d ctx ((Course.start d ctx schemas owner).play moves)) ctx
      ((Course.start d ctx schemas owner).play moves).course.walk.ctx :=
  grows_play (Course.start_stands d ctx schemas owner) (grows_privateContext d ctx _) moves

end RunDefinition

end Conformance
