import IoTNode.Foundations.Systems

set_option autoImplicit false

namespace IoTNode.Foundations.System

variable {σ τ α β : Type*}

/-- The abstract steps that a run accounts for, `note` saying which ones a single step does. -/
def trace (S : System σ α) (note : σ → α → List β) : σ → List α → List β
  | _, [] => []
  | s, a :: as => note s a ++ ((S.step s a).map (fun t => trace S note t as)).getD []

/-- Every step of `S` is matched by a run of `A`, empty if the step is invisible there. -/
structure Simulates (A : System τ β) (S : System σ α) (note : σ → α → List β)
    (R : σ → τ → Prop) : Prop where
  start : ∀ s, S.init s → ∃ u, A.init u ∧ R s u
  keep : ∀ s u a t, R s u → S.step s a = some t → ∃ v, A.run u (note s a) = some v ∧ R t v

variable {A : System τ β} {S : System σ α} {note : σ → α → List β} {R : σ → τ → Prop}

theorem trace_cons {s t : σ} {a : α} {as : List α} (hs : S.step s a = some t) :
    S.trace note s (a :: as) = note s a ++ S.trace note t as := by
  rw [trace, hs]
  rfl

theorem Simulates.run (h : Simulates A S note R) {s t : σ} {u : τ} {as : List α} (hr : R s u)
    (ht : S.run s as = some t) : ∃ v, A.run u (S.trace note s as) = some v ∧ R t v := by
  induction as generalizing s u with
  | nil =>
    obtain rfl := Option.some.inj ht
    exact ⟨u, rfl, hr⟩
  | cons a as ih =>
    obtain ⟨s', hs, ht⟩ := S.run_cons_some.mp ht
    obtain ⟨u', hu, hr⟩ := h.keep s u a s' hr hs
    obtain ⟨v, hv, hrv⟩ := ih hr ht
    refine ⟨v, ?_, hrv⟩
    rw [trace_cons hs]
    exact A.run_append_some.mpr ⟨u', hu, hv⟩

theorem Simulates.reachable (h : Simulates A S note R) {t : σ} (ht : S.Reachable t) :
    ∃ v, A.Reachable v ∧ R t v := by
  obtain ⟨s, as, hs, ht⟩ := ht
  obtain ⟨u, hu, hr⟩ := h.start s hs
  obtain ⟨v, hv, hrv⟩ := h.run hr ht
  exact ⟨v, ⟨u, _, hu, hv⟩, hrv⟩

theorem mem_trace {s : σ} {as : List α} {b : β} (h : b ∈ S.trace note s as) :
    ∃ before a after t, as = before ++ a :: after ∧ S.run s before = some t ∧ b ∈ note t a := by
  induction as generalizing s with
  | nil => cases h
  | cons a as ih =>
    rw [trace] at h
    rcases List.mem_append.mp h with h | h
    · exact ⟨[], a, as, s, rfl, rfl, h⟩
    · cases hs : S.step s a with
      | none => simp [hs] at h
      | some u =>
        rw [hs, Option.map_some, Option.getD_some] at h
        obtain ⟨before, c, after, t, rfl, hr, hb⟩ := ih h
        exact ⟨a :: before, c, after, t, rfl, S.run_cons_some.mpr ⟨u, hs, hr⟩, hb⟩

theorem countP_trace {p : β → Bool} {q : α → Bool}
    (h : ∀ s a, (note s a).countP p = if q a then 1 else 0) {s t : σ} {as : List α}
    (ht : S.run s as = some t) : (S.trace note s as).countP p = as.countP q := by
  induction as generalizing s with
  | nil => rfl
  | cons a as ih =>
    obtain ⟨u, hs, ht⟩ := S.run_cons_some.mp ht
    rw [trace_cons hs, List.countP_append, h, ih ht, List.countP_cons, Nat.add_comm]

section Views

variable {ν κ : Type*} {view : σ → ν} {clear : α → κ} {P : α → Prop}

/-- What the actions differ in besides `clear` never shows in `view`. -/
theorem run_view (h : ∀ s s' a a', view s = view s' → clear a = clear a' → P a →
      (S.step s a).map view = (S.step s' a').map view)
    {s s' : σ} {as as' : List α} (hs : view s = view s') (has : as.map clear = as'.map clear)
    (hp : ∀ a ∈ as, P a) : (S.run s as).map view = (S.run s' as').map view := by
  induction as generalizing s s' as' with
  | nil =>
    obtain rfl := List.map_eq_nil_iff.mp has.symm
    exact congrArg some hs
  | cons a as ih =>
    obtain ⟨a', as', rfl, ha, htail⟩ := List.map_eq_cons_iff.mp has.symm
    have hstep := h s s' a a' hs ha.symm (hp a List.mem_cons_self)
    rw [S.run_cons, S.run_cons]
    cases ht : S.step s a with
    | none =>
      rw [ht, Option.map_none] at hstep
      rw [Option.map_eq_none_iff.mp hstep.symm]
      rfl
    | some t =>
      rw [ht, Option.map_some] at hstep
      obtain ⟨t', ht', hview⟩ := Option.map_eq_some_iff.mp hstep.symm
      rw [ht']
      exact ih hview.symm htail.symm (fun b hb => hp b (List.mem_cons_of_mem a hb))

end Views

end IoTNode.Foundations.System
