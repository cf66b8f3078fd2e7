import Conformance.Proofs.Consent.Freshness
import Conformance.Proofs.Request.Reads

/-!
# Declared inputs suffice

A component declares the names that it reads, and a flow only looks whether they are set.
`inputs_suffice`: that is enough. Once the declared inputs hold texts, no step of a consent flow fails
for want of a text, whatever the earlier steps were answered.

What a step may read is what is declared or what earlier steps write, and both can be read off the
component (`Component.covered`): this is checked once for each provider. The rest holds of any component
that passes the check. A name that holds a text goes on holding one (`Context.KeepsTexts`), a step that
has passed has written its names (`TestCase.Passes.writes`), and so at each step all names that it may
read hold texts (`Component.covered_finds`). Texts of answers may hold dollar signs: they are only read
after all templates were cut.
-/

namespace Conformance

/-! ## Texts that stay -/

/-- Names that hold texts go on holding texts, if perhaps others. -/
def Context.KeepsTexts (ctx ctx' : Context) : Prop :=
  ∀ name, (∃ s, ctx.getText name = .ok s) → ∃ s, ctx'.getText name = .ok s

namespace Context

variable {ctx ctx' ctx'' : Context}

theorem KeepsTexts.refl (ctx : Context) : KeepsTexts ctx ctx := fun _ h => h

theorem KeepsTexts.trans (h : KeepsTexts ctx ctx') (h' : KeepsTexts ctx' ctx'') :
    KeepsTexts ctx ctx'' := fun name hname => h' name (h name hname)

theorem keepsTexts_putText (ctx : Context) (key s : String) : KeepsTexts ctx (ctx.putText key s) := by
  intro name hname
  rw [getText_putText]
  split
  · exact ⟨s, rfl⟩
  · exact hname

theorem keepsTexts_putTexts (ctx : Context) (entries : List (String × String)) :
    KeepsTexts ctx (ctx.putTexts entries) := by
  induction entries generalizing ctx with
  | nil => exact .refl _
  | cons e rest ih => exact (keepsTexts_putText ctx e.1 e.2).trans (ih _)

end Context

/-- Extractions that all find a value write their names, and no text is lost. -/
theorem Expect.extract_writes {response : Response} {body : Option Json} {rules : List MatchRule}
    {ctx next : Context} (h : extract response body rules ctx = ([], next)) :
    ctx.KeepsTexts next ∧
      ∀ r ∈ rules, r.contextName ≠ "" → ∃ s, next.getText r.contextName = .ok s := by
  induction rules generalizing ctx with
  | nil =>
      cases h
      exact ⟨.refl _, nofun⟩
  | cons r rest ih =>
      by_cases hname : r.contextName = ""
      · unfold extract at h
        rw [if_pos hname] at h
        obtain ⟨hkeeps, hwrites⟩ := ih h
        exact ⟨hkeeps, List.forall_mem_cons.mpr ⟨fun hne => absurd hname hne, hwrites⟩⟩
      · obtain ⟨value, -, hrest⟩ := extract_cons hname h
        obtain ⟨hkeeps, hwrites⟩ := ih hrest
        refine ⟨(Context.keepsTexts_putText ctx _ value).trans hkeeps,
          List.forall_mem_cons.mpr ⟨fun _ => ?_, hwrites⟩⟩
        exact hkeeps _ ⟨value, Context.getText_putText_self ..⟩

/-! ## What a test case writes -/

namespace TestCase

variable {t t' : TestCase} {early ctx next : Context} {trial : Trial} {x : Exchange}

/-- The names that the extractions of a test case write, as far as these are not templates. -/
def writes (t : TestCase) : List String :=
  (t.expect.extractions.map (·.contextName)).filter fun name =>
    name ≠ "" && !name.toList.contains '$'

theorem expandRules_mem {mode : Expansion} {rules rules' : List MatchRule}
    (h : expandRules ctx mode rules = .ok rules') :
    ∀ r ∈ rules, ∃ r' ∈ rules', Template.expand ctx mode r.contextName = .ok r'.contextName := by
  induction rules generalizing rules' with
  | nil => nofun
  | cons r rest ih =>
      unfold expandRules at h
      obtain ⟨r', hr, h⟩ := Except.bind_eq_ok_iff.mp h
      obtain ⟨rest', hrest, h⟩ := Except.bind_eq_ok_iff.mp h
      cases h
      unfold expandRule at hr
      obtain ⟨value, -, hr⟩ := Except.bind_eq_ok_iff.mp hr
      obtain ⟨name, hname, hr⟩ := Except.bind_eq_ok_iff.mp hr
      cases hr
      refine List.forall_mem_cons.mpr ⟨⟨_, List.mem_cons_self, hname⟩, fun q hq => ?_⟩
      obtain ⟨q', hq', hexpand⟩ := ih hrest q hq
      exact ⟨q', List.mem_cons_of_mem _ hq', hexpand⟩

/-- Expanding a test case leaves the names that it writes. -/
theorem writes_of_expand {mode : Expansion} (h : t.expand ctx mode = .ok t') :
    ∀ name ∈ t.writes, ∃ r ∈ t'.expect.extractions, r.contextName = name ∧ name ≠ "" := by
  intro name hname
  obtain ⟨hmem, hproper⟩ := List.mem_filter.mp hname
  obtain ⟨r, hr, rfl⟩ := List.mem_map.mp hmem
  simp only [ne_eq, Bool.and_eq_true, decide_eq_true_eq, Bool.not_eq_true',
    List.contains_eq_mem, decide_eq_false_iff_not] at hproper
  obtain ⟨r', hr', hexpand⟩ := expandRules_mem (expand_eq_ok h).2 r hr
  rw [Template.expand_of_no_dollar ctx mode hproper.2] at hexpand
  exact ⟨r', hr', (Except.ok.inj hexpand).symm, hproper.1⟩

theorem Passes.keepsTexts [Idna] (h : t.Passes ctx trial x next) : ctx.KeepsTexts next := by
  obtain ⟨-, hprepared⟩ := prepare_eq_ok (begin_ok h.begun).2
  have hkeeps := (Expect.extract_writes h.extracted).1
  rw [hprepared] at hkeeps
  exact (Context.keepsTexts_putTexts ctx _).trans hkeeps

/-- A test case that has passed has written its names. -/
theorem Passes.writes [Idna] (hexpand : t.expand early .lenient = .ok t')
    (h : t'.Passes ctx trial x next) : ∀ name ∈ t.writes, ∃ s, next.getText name = .ok s := by
  intro name hname
  obtain ⟨r, hr, rfl, hne⟩ := writes_of_expand hexpand name hname
  exact (Expect.extract_writes h.extracted).2 r hr hne

end TestCase

/-! ## What a test case reads -/

namespace TestCase

/-- Whether a test case reads no other names than given ones: each of its templates has one variable at
most, which is one of them, and so is the base URL. -/
def readsOnly (known : List String) (t : TestCase) : Bool :=
  known.contains Context.baseUrlName && t.input.templates.all fun s =>
    decide (s.toList.count '$' ≤ 1) && (Template.names s).all known.contains

variable {t t' : TestCase} {known : List String} {early ctx : Context}

/-- A test case does not fail for want of a text when the names that it reads hold texts. -/
theorem prepare_finds [Idna] (h : t.readsOnly known = true)
    (hexpand : t.expand early .lenient = .ok t')
    (hplain : ∀ name text, early.getText name = .ok text → '$' ∉ text.toList)
    (hknown : ∀ name ∈ known, ∃ text, ctx.getText name = .ok text) :
    FindsTexts (t'.prepare ctx) := by
  simp only [readsOnly, Bool.and_eq_true, List.all_eq_true, decide_eq_true_eq,
    List.contains_eq_mem] at h
  obtain ⟨hbase, htemplates⟩ := h
  have hworking : ∀ name ∈ known, ∃ text, (t'.workingContext ctx).getText name = .ok text := by
    intro name hname
    obtain ⟨text, htext⟩ := hknown name hname
    exact ⟨text, Context.getText_overlay htext⟩
  have hinput := RequestTemplate.expand_eq_ok (expand_eq_ok hexpand).1
  have hfinds := RequestTemplate.expand_reads hinput hplain (fun s hs => (htemplates s hs).1)
    (fun s hs name hname => hworking name ((htemplates s hs).2 name hname))
    (hworking _ hbase)
  intro e he
  unfold prepare at he
  split at he <;> cases he
  next hfailed => exact hfinds e hfailed

end TestCase

/-! ## Test cases in a row -/

namespace Component

/-- Whether each test case reads no other names than given ones and those that the ones before it
write. -/
def covered (known : List String) : List TestCase → Bool
  | [] => true
  | t :: rest => t.readsOnly known && covered (known ++ t.writes) rest

/-- The names that a component declares as inputs and that are texts. -/
def textInputs (c : Component) : List String :=
  c.inputs.keys.filter fun name => name ≠ Context.signingKeyName

variable {known : List String} {early ctx ctx' : Context} {tests tests' done rest : List TestCase}
  {t : TestCase} {sent : List Trial} {xs : List Exchange}

/-- After test cases that have passed, the next one does not fail for want of a text. -/
theorem covered_finds [Idna] (h : covered known tests = true)
    (hexpand : List.Forall₂ (fun t t' => t.expand early .lenient = .ok t') tests tests')
    (hplain : ∀ name text, early.getText name = .ok text → '$' ∉ text.toList)
    (hknown : ∀ name ∈ known, ∃ text, ctx.getText name = .ok text)
    (hpasses : Walk.Passes ctx done sent xs ctx') (htests : done ++ t :: rest = tests') :
    FindsTexts (t.prepare ctx') := by
  induction hexpand generalizing known ctx done sent xs with
  | nil => exact absurd htests (by simp)
  | @cons first first' others others' hfirst hothers ih =>
      obtain ⟨hreads, hcovered⟩ := (Bool.and_eq_true ..).mp h
      cases hpasses with
      | nothing =>
          cases htests
          exact TestCase.prepare_finds hreads hfirst hplain hknown
      | step hpassed hlater =>
          -- The names that are known now are known after the step, with those that it writes.
          cases htests
          refine ih hcovered (fun name hname => ?_) hlater rfl
          rcases List.mem_append.mp hname with hname | hname
          · exact hpassed.keepsTexts name (hknown name hname)
          · exact TestCase.Passes.writes hfirst hpassed name hname

end Component

/-- Both providers read no more than what they declare and what their own steps write. -/
theorem Acquisition.component_covered (acquisition : Acquisition) :
    Component.covered acquisition.component.textInputs acquisition.component.tests = true := by
  cases acquisition <;> decide +kernel

namespace ConsentFlow.Course

/-- **Declared inputs suffice.** Let the context of a flow set all that its component declares to read,
each of these but the signing key to a text, and let no text of it hold a dollar sign. Then the flow
starts, and whatever it is answered and whenever it is asked to stop, preparing the step that is next
never fails because a variable is not set or is no text. -/
theorem inputs_suffice [Idna] {d : RunDefinition} {item : ConsentItem} {ctx : Context}
    {acquisition : Acquisition}
    (hplain : ∀ name text, (context d item ctx).getText name = .ok text → '$' ∉ text.toList)
    (htexts : ∀ name, acquisition.component.inputs.contains name = true →
      name ≠ Context.signingKeyName → ∃ text, (context d item ctx).getText name = .ok text)
    (hchecked : acquisition.component.checkInputs (context d item ctx) = .ok ()) :
    ∃ f runner, ConsentFlow.begin Runner.forConsent d item ctx acquisition = .ok (f, runner) ∧
      ∀ (moves : List Walk.Move) (test : TestCase) (rest : List TestCase),
        ((start f).play moves).course.walk.place = .before (test :: rest) →
          ∀ e, test.prepare ((start f).play moves).course.walk.ctx ≠ .error (.template e) := by
  obtain ⟨f, runner, hbegin⟩ :=
    Acquisition.begin_succeeds (Component.checkInputs_eq_ok_iff.mp hchecked)
  refine ⟨f, runner, hbegin, fun moves test rest hplace => ?_⟩
  obtain ⟨-, hctx, htests⟩ := Acquisition.begin_eq_ok hbegin
  have hstands := (start_stands f).play moves
  generalize (start f).play moves = c at hstands hplace ⊢
  have hwalk := hstands.walk
  have hknown : ∀ name ∈ acquisition.component.textInputs,
      ∃ text, f.ctx.getText name = .ok text := by
    intro name hname
    obtain ⟨hkey, hsigning⟩ := List.mem_filter.mp hname
    rw [hctx]
    exact htexts name (KeyMap.mem_keys_iff.mp hkey) (by simpa using hsigning)
  obtain ⟨hbegun, xs, hpasses⟩ := hwalk.passed_of_before hstands.halts hplace
  rw [hctx] at hpasses hknown
  exact Component.covered_finds acquisition.component_covered
    (Component.expandTests_eq_ok htests) hplain hknown hpasses hbegun

/-- The flow of one token with a context that sets what the component reads. -/
theorem sampleContext_suffices :
    let item := ConsentItem.new "accountToken0001" "\"ReadBalances\""
    ∃ f runner,
      ConsentFlow.begin Runner.forConsent {} item Acquisition.sampleContext .psu = .ok (f, runner) ∧
        ∀ (moves : List Walk.Move) (test : TestCase) (rest : List TestCase),
          ((start f).play moves).course.walk.place = .before (test :: rest) →
            ∀ e, test.prepare ((start f).play moves).course.walk.ctx ≠ .error (.template e) := by
  intro item
  have hplain : (context {} item Acquisition.sampleContext).isPlain = true := by
    decide +kernel
  have hset : ∀ name ∈ Component.Providers.interactive.inputs.keys,
      name ≠ Context.signingKeyName →
        ((context {} item Acquisition.sampleContext).getText name).toOption.isSome = true := by
    decide +kernel
  refine inputs_suffice (fun name text => Context.plain_of_isPlain hplain) ?_ (by decide +kernel)
  intro name hname hsigning
  have htext := hset name (KeyMap.mem_keys_iff.mpr hname) hsigning
  generalize (context {} item Acquisition.sampleContext).getText name = found at htext
  cases found with
  | ok text => exact ⟨text, rfl⟩
  | error e => cases htext

end ConsentFlow.Course

end Conformance
