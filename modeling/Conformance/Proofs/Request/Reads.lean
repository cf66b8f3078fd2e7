import Conformance.Proofs.Expansion
import Conformance.Proofs.Request.Prepare

/-!
# What requests read

Preparing a request reads the variables of its templates and the base URL from a context.
`prepare_reads`: if the context has a text for each of them, then whatever else is wrong with the
request, it is not that a text is missing. `expand_reads` says the same of a request that was expanded
with another context before, as far as that had texts.
-/

namespace Conformance

/-! ## Preparations that find all texts -/

/-- A preparation that may fail, but not for want of a text. -/
def FindsTexts {α : Type} (x : Except RequestError α) : Prop := ∀ e, x ≠ .error (.template e)

theorem findsTexts_bind {α β : Type} {x : Except RequestError α} {f : α → Except RequestError β}
    (hx : FindsTexts x) (hf : ∀ a, x = .ok a → FindsTexts (f a)) : FindsTexts (x >>= f) := by
  intro e he
  rcases Except.bind_eq_error_iff.mp he with hfirst | ⟨a, ha, hsecond⟩
  · exact hx e hfirst
  · exact hf a ha e hsecond

theorem findsTexts_ok {α : Type} (a : α) : FindsTexts (.ok a : Except RequestError α) := nofun

theorem findsTexts_expanding {α : Type} {x : Except ExpandError α} (h : ∃ a, x = .ok a) :
    FindsTexts (RequestTemplate.expanding x) := by
  obtain ⟨a, rfl⟩ := h
  exact findsTexts_ok a

namespace Template

variable {ctx : Context}

/-- A map can be expanded when each of its values can. -/
theorem expandMap_succeeds {m : KeyMap String} {mode : Expansion}
    (h : ∀ e ∈ m.entries, ∃ s, expand ctx mode e.2 = .ok s) : ∃ r, expandMap ctx mode m = .ok r := by
  cases hmap : expandMap ctx mode m with
  | ok r => exact ⟨r, rfl⟩
  | error x =>
      obtain ⟨e, he, hx⟩ := KeyMap.mapM_eq_error hmap
      obtain ⟨s, hs⟩ := h e he
      rw [hs] at hx
      cases hx

end Template

namespace RequestTemplate

variable {r r' : RequestTemplate} {ctx : Context}

/-- The maps of a request whose values are templates. -/
def maps (r : RequestTemplate) : List (KeyMap String) :=
  [r.headers, r.queryParameters, r.formData, r.claims]

/-- The templates that are expanded when a request is prepared. -/
def templates (r : RequestTemplate) : List String :=
  r.endpoint :: (r.bodyData.toList ++ r.maps.flatMap fun m => m.entries.map (·.2))

theorem mem_templates_of_entry {m : KeyMap String} (hm : m ∈ r.maps) {e : String × String}
    (he : e ∈ m.entries) : e.2 ∈ r.templates :=
  List.mem_cons_of_mem _ (List.mem_append_right _
    (List.mem_flatMap.mpr ⟨m, hm, List.mem_map_of_mem he⟩))

/-! ## Parts -/

theorem preparedMethod_reads (r : RequestTemplate) : FindsTexts r.preparedMethod := by
  unfold preparedMethod
  split
  · nofun
  · split
    · nofun
    · dsimp only
      split <;> nofun

theorem baseUrl_reads (hendpoint : ∃ s, Template.expand ctx .strict r.endpoint = .ok s)
    (hbase : ∃ s, ctx.getText Context.baseUrlName = .ok s) : FindsTexts (r.baseUrl ctx) := by
  refine findsTexts_bind (findsTexts_expanding hendpoint) fun endpoint _ => ?_
  obtain ⟨base, hbase⟩ := hbase
  split
  · exact findsTexts_ok _
  · rw [hbase]
    exact findsTexts_ok _

theorem withParameters_reads [Idna] {url : String} {parameters : KeyMap String}
    (h : ∃ m, Template.expandMap ctx .strict parameters = .ok m) :
    FindsTexts (withParameters ctx url parameters) := by
  unfold withParameters
  split
  · exact findsTexts_ok _
  · split
    · nofun
    · exact findsTexts_bind (findsTexts_expanding h) fun _ _ => findsTexts_ok _

theorem preparedHeaders_reads {headers : KeyMap String}
    (h : ∀ e ∈ headers.entries, ∃ s, Template.expand ctx .strict e.2 = .ok s) :
    FindsTexts (preparedHeaders ctx headers) := by
  intro x hx
  obtain ⟨e, he, hfailed⟩ := KeyMap.mapM_eq_error hx
  obtain ⟨s, hs⟩ := h e he
  rw [hs] at hfailed
  dsimp only at hfailed
  split at hfailed <;> cases hfailed

theorem applyStrategy_reads [Idna] (strategy : ClaimStrategy) (claims : KeyMap String)
    (ctx : Context)
    (request : PreparedRequest) : FindsTexts (applyStrategy strategy claims ctx request) := by
  unfold applyStrategy
  cases strategy with
  | consentUrl =>
      dsimp only
      split <;> nofun
  | jwtBearer =>
      dsimp only
      split
      · nofun
      · split <;> nofun

/-! ## Whole requests -/

/-- A request finds all texts that it reads when its templates can be expanded and there is a base
URL. -/
theorem prepare_reads [Idna]
    (htemplates : ∀ s ∈ r.templates, ∃ text, Template.expand ctx .strict s = .ok text)
    (hbase : ∃ s, ctx.getText Context.baseUrlName = .ok s) : FindsTexts (r.prepare ctx) := by
  have hvalues : ∀ m ∈ r.maps, ∀ e ∈ m.entries, ∃ s, Template.expand ctx .strict e.2 = .ok s :=
    fun m hm e he => htemplates e.2 (mem_templates_of_entry hm he)
  have hmap : ∀ m ∈ r.maps, ∃ m', Template.expandMap ctx .strict m = .ok m' :=
    fun m hm => Template.expandMap_succeeds (hvalues m hm)
  have hbody : ∃ s, Template.expandOption ctx .strict r.bodyData = .ok s := by
    cases hdata : r.bodyData with
    | none => exact ⟨none, rfl⟩
    | some s => exact Except.map_succeeds (htemplates s (by simp [templates, hdata])) some
  have hplain : FindsTexts (r.preparePlain ctx) := by
    unfold preparePlain
    refine findsTexts_bind r.preparedMethod_reads fun method _ => ?_
    refine findsTexts_bind (baseUrl_reads (htemplates _ (by simp [templates])) hbase) fun url _ => ?_
    refine findsTexts_bind (withParameters_reads (hmap _ (by simp [maps]))) fun url' _ => ?_
    refine findsTexts_bind (preparedHeaders_reads (hvalues _ (by simp [maps]))) fun headers _ => ?_
    refine findsTexts_bind (findsTexts_expanding (hmap _ (by simp [maps]))) fun form _ => ?_
    exact findsTexts_bind (findsTexts_expanding hbody) fun body _ => findsTexts_ok _
  unfold prepare
  refine findsTexts_bind hplain fun plain _ => ?_
  split
  · exact findsTexts_ok _
  · split
    · nofun
    · exact findsTexts_bind (findsTexts_expanding (hmap _ (by simp [maps]))) fun claims _ =>
        applyStrategy_reads _ claims ctx plain

/-- Each template of an expanded request is what a template of the request was expanded to. -/
theorem Expands.mem_templates {mode : Expansion} (h : Expands ctx mode r r') {s : String}
    (hs : s ∈ r'.templates) : ∃ t ∈ r.templates, Template.expand ctx mode t = .ok s := by
  have hmaps : ∀ m' ∈ r'.maps, ∃ m ∈ r.maps, Template.expandMap ctx mode m = .ok m' := by
    intro m' hm'
    simp only [maps, List.mem_cons, List.not_mem_nil, or_false] at hm'
    rcases hm' with rfl | rfl | rfl | rfl
    · exact ⟨_, by simp [maps], h.headers⟩
    · exact ⟨_, by simp [maps], h.queryParameters⟩
    · exact ⟨_, by simp [maps], h.formData⟩
    · exact ⟨_, by simp [maps], h.claims⟩
  rcases List.mem_cons.mp hs with rfl | hs
  · exact ⟨r.endpoint, List.mem_cons_self, h.endpoint⟩
  rcases List.mem_append.mp hs with hs | hs
  · have hbody := h.bodyData
    rw [Option.mem_toList.mp hs] at hbody
    cases hdata : r.bodyData with
    | none =>
        rw [hdata] at hbody
        cases hbody
    | some t =>
        refine ⟨t, by simp [templates, hdata], ?_⟩
        rw [hdata, Template.expandOption] at hbody
        cases hexpand : Template.expand ctx mode t with
        | error e =>
            rw [hexpand] at hbody
            cases hbody
        | ok u =>
            rw [hexpand] at hbody
            cases hbody
            rfl
  · obtain ⟨m', hm', hs⟩ := List.mem_flatMap.mp hs
    obtain ⟨e, he, rfl⟩ := List.mem_map.mp hs
    obtain ⟨m, hm, hmap⟩ := hmaps m' hm'
    obtain ⟨t, ht, hexpand⟩ := KeyMap.mem_mapM hmap he
    exact ⟨t, mem_templates_of_entry hm ht, hexpand⟩

/-- A request that was expanded as far as a context without dollar signs had texts finds all texts in
a context that has one for each variable, if no template has two of them. -/
theorem expand_reads [Idna] {early : Context} (hexpand : Expands early .lenient r r')
    (hplain : ∀ name text, early.getText name = .ok text → '$' ∉ text.toList)
    (hone : ∀ s ∈ r.templates, s.toList.count '$' ≤ 1)
    (hknown : ∀ s ∈ r.templates, ∀ name ∈ Template.names s, ∃ text, ctx.getText name = .ok text)
    (hbase : ∃ s, ctx.getText Context.baseUrlName = .ok s) : FindsTexts (r'.prepare ctx) := by
  refine prepare_reads (fun s hs => ?_) hbase
  obtain ⟨t, ht, hfirst⟩ := hexpand.mem_templates hs
  exact Template.expand_twice_succeeds (hone t ht) hplain hfirst (hknown t ht)

end RequestTemplate

end Conformance
