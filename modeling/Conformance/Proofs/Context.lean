import Conformance.Context
import Conformance.Proofs.KeyMap

/-!
# Reading contexts

What a context holds under a name after it was written to, or laid over another one. `Grows` says of
two contexts that one came of the other by setting names of a kind, and nothing else.
-/

namespace Conformance.Context

/-! ## Reading -/

theorem get_eq_of_get?_eq {ctx ctx' : Context} {key : String}
    (h : ctx.values.get? key = ctx'.values.get? key) : ctx.get key = ctx'.get key := by
  unfold get
  rw [h]

theorem getText_eq_ok_iff {ctx : Context} {key s : String} :
    ctx.getText key = .ok s ↔ ctx.values.get? key = some (.text s) := by
  unfold getText get
  cases ctx.values.get? key with
  | none => simp
  | some v => cases v <;> simp

/-- The text that a context holds under a name. -/
def text? (ctx : Context) (key : String) : Option String :=
  match ctx.values.get? key with
  | some (.text s) => some s
  | _ => none

theorem text?_eq_some_iff {ctx : Context} {key s : String} :
    ctx.text? key = some s ↔ ctx.values.get? key = some (.text s) := by
  unfold text?
  cases ctx.values.get? key with
  | none => simp
  | some v => cases v <;> simp

/-- Reading a text finds it, or fails when there is none. -/
theorem getText_cases (ctx : Context) (key : String) :
    (∃ s, ctx.text? key = some s ∧ ctx.getText key = .ok s) ∨
      ctx.text? key = none ∧ ∃ e, ctx.getText key = .error e := by
  cases hread : ctx.getText key with
  | ok s => exact .inl ⟨s, text?_eq_some_iff.mpr (getText_eq_ok_iff.mp hread), rfl⟩
  | error e =>
      right
      refine ⟨Option.eq_none_iff_forall_ne_some.mpr fun s hs => ?_, e, rfl⟩
      rw [getText_eq_ok_iff.mpr (text?_eq_some_iff.mp hs)] at hread
      cases hread

/-! ## Writing -/

theorem get_putText_self (ctx : Context) (key s : String) :
    (ctx.putText key s).get key = .ok (.text s) := by
  have hget : (ctx.putText key s).values.get? key = some (.text s) := KeyMap.get?_put_self ..
  unfold get
  rw [hget]

theorem getText_putText_self (ctx : Context) (key s : String) :
    (ctx.putText key s).getText key = .ok s :=
  getText_eq_ok_iff.mpr (KeyMap.get?_put_self ..)

theorem get_putText_of_ne (ctx : Context) {key k : String} (h : key ≠ k) (s : String) :
    (ctx.putText key s).get k = ctx.get k :=
  get_eq_of_get?_eq (KeyMap.get?_put_of_ne _ h _)

theorem getText_congr {ctx ctx' : Context} {key : String} (h : ctx.get key = ctx'.get key) :
    ctx.getText key = ctx'.getText key := by
  unfold getText
  rw [h]

theorem getText_putText (ctx : Context) (key s k : String) :
    (ctx.putText key s).getText k = if key = k then .ok s else ctx.getText k := by
  by_cases h : key = k
  · subst h
    rw [if_pos rfl, getText_putText_self]
  · rw [if_neg h, getText_congr (get_putText_of_ne ctx h s)]

/-- Of two texts that are put under one name, the later one counts. -/
theorem putText_putText (ctx : Context) (key s s' : String) :
    (ctx.putText key s).putText key s' = ctx.putText key s' :=
  congrArg Context.mk (KeyMap.put_put ctx.values key (.text s) (.text s'))

theorem contains_putText (ctx : Context) (key s k : String) :
    (ctx.putText key s).contains k = (decide (key = k) || ctx.contains k) := by
  have hget : (ctx.putText key s).values.get? k =
      if key = k then some (.text s) else ctx.values.get? k := KeyMap.get?_put ..
  unfold contains KeyMap.contains
  rw [hget]
  by_cases h : key = k <;> simp [h]

/-- A text of the context on top is seen through the overlay. -/
theorem getText_overlay {ctx other : Context} {key s : String} (h : other.getText key = .ok s) :
    (ctx.overlay other).getText key = .ok s := by
  rw [getText_eq_ok_iff] at h ⊢
  have ho : (ctx.overlay other).values = ctx.values.overlay other.values := rfl
  rw [ho, KeyMap.get?_overlay, h]
  rfl

/-! ## What is left alone -/

/-- One context came of another by setting some of the names of a kind; none was taken away. -/
structure Grows (kind : String → Prop) (ctx ctx' : Context) : Prop where
  kept : ∀ k, ctx.contains k = true → ctx'.contains k = true
  set : ∀ k, ctx'.values.get? k ≠ ctx.values.get? k → kind k

variable {kind kind' : String → Prop} {ctx ctx' ctx'' : Context}

theorem Grows.refl (kind : String → Prop) (ctx : Context) : Grows kind ctx ctx :=
  ⟨fun _ hk => hk, fun _ hk => absurd rfl hk⟩

theorem Grows.trans (h : Grows kind ctx ctx') (h' : Grows kind ctx' ctx'') :
    Grows kind ctx ctx'' where
  kept k hk := h'.kept k (h.kept k hk)
  set k hk := by
    by_cases hsame : ctx''.values.get? k = ctx'.values.get? k
    · rw [hsame] at hk
      exact h.set k hk
    · exact h'.set k hsame

theorem Grows.mono (h : Grows kind ctx ctx') (himp : ∀ k, kind k → kind' k) :
    Grows kind' ctx ctx' :=
  ⟨h.kept, fun k hk => himp k (h.set k hk)⟩

/-- Values that are put under a context only show where it has none. -/
theorem grows_overlay {base : Context}
    (hkind : ∀ k, ctx.contains k = false → base.contains k = true → kind k) :
    Grows kind ctx (base.overlay ctx) := by
  have hget : ∀ k, (base.overlay ctx).values.get? k =
      (ctx.values.get? k).or (base.values.get? k) := fun k => KeyMap.get?_overlay ..
  refine ⟨fun k hk => ?_, fun k hk => ?_⟩
  · unfold contains KeyMap.contains at hk ⊢
    rw [hget, Option.isSome_or, hk, Bool.true_or]
  · unfold contains KeyMap.contains at hkind
    rw [hget] at hk
    cases hctx : ctx.values.get? k with
    | some v =>
        rw [hctx] at hk
        exact absurd rfl hk
    | none =>
        cases hbase : base.values.get? k with
        | some v => exact hkind k (by rw [hctx]; rfl) (by rw [hbase]; rfl)
        | none =>
            rw [hctx, hbase] at hk
            exact absurd rfl hk

theorem grows_putText (ctx : Context) {key : String} (hkey : kind key) (s : String) :
    Grows kind ctx (ctx.putText key s) := by
  have hget : ∀ k, (ctx.putText key s).values.get? k =
      if key = k then some (.text s) else ctx.values.get? k := fun k => KeyMap.get?_put ..
  refine ⟨fun k hk => ?_, fun k hk => ?_⟩
  · unfold contains KeyMap.contains at hk ⊢
    rw [hget]
    split
    · rfl
    · exact hk
  · rw [hget] at hk
    split at hk
    next heq => exact heq ▸ hkey
    · exact absurd rfl hk

end Conformance.Context
