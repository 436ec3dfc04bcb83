import Mathlib.Data.List.Basic

set_option autoImplicit false

namespace IoTNode.Foundations

/-- A machine whose actions may be disabled: `step s a = none` when `a` cannot happen in `s`. -/
structure System (σ α : Type*) where
  init : σ → Prop
  step : σ → α → Option σ

namespace System

variable {σ α : Type*} (S : System σ α)

def run : σ → List α → Option σ
  | s, [] => some s
  | s, a :: as => (S.step s a).bind (fun t => run t as)

def Reachable (t : σ) : Prop := ∃ s as, S.init s ∧ S.run s as = some t

/-- Every step of the run meets `P` in the state it starts from. -/
def Along (P : σ → α → Prop) (s : σ) (as : List α) : Prop :=
  ∀ before a after t, as = before ++ a :: after → S.run s before = some t → P t a

/-- Every state the run visits, the last one included, meets `Q`. -/
def Always (Q : σ → Prop) (s : σ) (as : List α) : Prop :=
  ∀ before after t, as = before ++ after → S.run s before = some t → Q t

@[simp] theorem run_nil (s : σ) : S.run s [] = some s := rfl

@[simp] theorem run_cons (s : σ) (a : α) (as : List α) :
    S.run s (a :: as) = (S.step s a).bind (fun t => S.run t as) := rfl

theorem run_append (s : σ) (as bs : List α) :
    S.run s (as ++ bs) = (S.run s as).bind (fun t => S.run t bs) := by
  induction as generalizing s with
  | nil => rfl
  | cons a as ih =>
    cases h : S.step s a with
    | none => simp [h]
    | some t => simp [h, ih]

theorem run_cons_some {s u : σ} {a : α} {as : List α} :
    S.run s (a :: as) = some u ↔ ∃ t, S.step s a = some t ∧ S.run t as = some u := by
  rw [run_cons, Option.bind_eq_some_iff]

theorem run_append_some {s u : σ} {as bs : List α} :
    S.run s (as ++ bs) = some u ↔ ∃ t, S.run s as = some t ∧ S.run t bs = some u := by
  rw [run_append, Option.bind_eq_some_iff]

theorem run_snoc_some {s u : σ} {a : α} {as : List α} :
    S.run s (as ++ [a]) = some u ↔ ∃ t, S.run s as = some t ∧ S.step t a = some u := by
  simp [run_append_some]

theorem along_cons {P : σ → α → Prop} {s t : σ} {a : α} {as : List α}
    (h : S.Along P s (a :: as)) (hs : S.step s a = some t) : P s a ∧ S.Along P t as := by
  refine ⟨h [] a as s rfl rfl, ?_⟩
  intro before b after u he hr
  exact h (a :: before) b after u (by rw [he, List.cons_append]) (S.run_cons_some.mpr ⟨t, hs, hr⟩)

theorem along_nil {P : σ → α → Prop} (s : σ) : S.Along P s [] := by
  intro before a after t he _
  simp at he

theorem Along.cons {P : σ → α → Prop} {s t : σ} {a : α} {as : List α} (ha : P s a)
    (hs : S.step s a = some t) (h : S.Along P t as) : S.Along P s (a :: as) := by
  intro before b after u he hr
  cases before with
  | nil =>
    obtain ⟨rfl, _⟩ := List.cons.inj he
    obtain rfl := Option.some.inj hr
    exact ha
  | cons c before =>
    obtain ⟨rfl, htail⟩ := List.cons.inj he
    obtain ⟨v, hv, hr⟩ := S.run_cons_some.mp hr
    obtain rfl : t = v := Option.some.inj (hs.symm.trans hv)
    exact h before b after u htail hr

theorem Along.left {P : σ → α → Prop} {s : σ} {as bs : List α} (h : S.Along P s (as ++ bs)) :
    S.Along P s as := by
  intro before a after t he hr
  exact h before a (after ++ bs) t (by rw [he, List.append_assoc, List.cons_append]) hr

theorem Always.snoc {Q : σ → Prop} {s : σ} {a : α} {as : List α} (h : S.Always Q s as)
    (hq : ∀ t, S.run s (as ++ [a]) = some t → Q t) : S.Always Q s (as ++ [a]) := by
  intro before after t he hr
  rcases List.eq_nil_or_concat after with rfl | ⟨after, b, rfl⟩
  · rw [List.append_nil] at he
    exact hq t (he ▸ hr)
  · rw [List.concat_eq_append, ← List.append_assoc] at he
    exact h before after t (List.append_inj_left' he rfl) hr

theorem run_invariant {I : σ → Prop} {P : σ → α → Prop}
    (keep : ∀ s a t, I s → P s a → S.step s a = some t → I t)
    {s t : σ} {as : List α} (hs : I s) (hp : S.Along P s as) (hr : S.run s as = some t) : I t := by
  induction as generalizing s with
  | nil =>
    rw [run_nil, Option.some.injEq] at hr
    exact hr ▸ hs
  | cons a as ih =>
    obtain ⟨u, hu, hr⟩ := S.run_cons_some.mp hr
    obtain ⟨ha, hp⟩ := S.along_cons hp hu
    exact ih (keep s a u hs ha hu) hp hr

theorem always_invariant {I : σ → Prop} {P : σ → α → Prop}
    (keep : ∀ s a t, I s → P s a → S.step s a = some t → I t)
    {s : σ} {as : List α} (hs : I s) (hp : S.Along P s as) : S.Always I s as := by
  intro before after t he hr
  subst he
  exact S.run_invariant keep hs (Along.left S hp) hr

theorem along_true (s : σ) (as : List α) : S.Along (fun _ _ => True) s as :=
  fun _ _ _ _ _ _ => trivial

theorem reachable_invariant {I : σ → Prop} (start : ∀ s, S.init s → I s)
    (keep : ∀ s a t, I s → S.step s a = some t → I t) {t : σ} (h : S.Reachable t) : I t := by
  obtain ⟨s, as, hs, hr⟩ := h
  exact S.run_invariant (fun s a t hs _ => keep s a t hs) (start s hs) (S.along_true s as) hr

theorem Reachable.step {s t : σ} {a : α} (h : S.Reachable s) (hs : S.step s a = some t) :
    S.Reachable t := by
  obtain ⟨s₀, as, hi, hr⟩ := h
  exact ⟨s₀, as ++ [a], hi, S.run_snoc_some.mpr ⟨s, hr, hs⟩⟩

theorem Reachable.run {s t : σ} {as : List α} (h : S.Reachable s) (hr : S.run s as = some t) :
    S.Reachable t := by
  obtain ⟨s₀, before, hi, hs⟩ := h
  exact ⟨s₀, before ++ as, hi, S.run_append_some.mpr ⟨s, hs, hr⟩⟩

section Observed

variable {γ : Type*} (note : σ → γ → α → γ) (start : γ)

/-- The machine with a history variable: it records the steps and never stops one. -/
def observed : System (σ × γ) α where
  init p := S.init p.1 ∧ p.2 = start
  step p a := (S.step p.1 a).map (fun t => (t, note p.1 p.2 a))

variable {note start}

theorem observed_step {p q : σ × γ} {a : α} :
    (S.observed note start).step p a = some q ↔
      S.step p.1 a = some q.1 ∧ q.2 = note p.1 p.2 a := by
  simp only [observed, Option.map_eq_some_iff]
  constructor
  · rintro ⟨t, ht, rfl⟩
    exact ⟨ht, rfl⟩
  · rintro ⟨ht, hq⟩
    exact ⟨q.1, ht, by rw [← hq]⟩

theorem run_of_observed {p q : σ × γ} {as : List α} (h : (S.observed note start).run p as = some q) :
    S.run p.1 as = some q.1 := by
  induction as generalizing p with
  | nil => exact congrArg (Option.map Prod.fst) h
  | cons a as ih =>
    obtain ⟨t, ht, hr⟩ := (S.observed note start).run_cons_some.mp h
    exact S.run_cons_some.mpr ⟨t.1, (S.observed_step.mp ht).1, ih hr⟩

theorem observed_run {s t : σ} {as : List α} (h : S.run s as = some t) (g : γ) :
    ∃ g', (S.observed note start).run (s, g) as = some (t, g') := by
  induction as generalizing s g with
  | nil => exact ⟨g, congrArg (Option.map (fun u => (u, g))) h⟩
  | cons a as ih =>
    obtain ⟨u, hu, hr⟩ := S.run_cons_some.mp h
    obtain ⟨g', hg⟩ := ih hr (note s g a)
    exact ⟨g', (S.observed note start).run_cons_some.mpr ⟨_, S.observed_step.mpr ⟨hu, rfl⟩, hg⟩⟩

theorem reachable_of_observed {p : σ × γ} (h : (S.observed note start).Reachable p) :
    S.Reachable p.1 := by
  obtain ⟨q, as, hq, hr⟩ := h
  exact ⟨q.1, as, hq.1, S.run_of_observed hr⟩

end Observed

end System

end IoTNode.Foundations
