import Mathlib.Data.List.Basic
import Mathlib.Data.List.Forall2

set_option autoImplicit false

namespace IoTNode.Foundations

variable {α π : Type*}

/-- `later` is `earlier` with one more entry, `a`, put somewhere. -/
def Inserted (a : α) (earlier later : List α) : Prop :=
  ∃ before after, earlier = before ++ after ∧ later = before ++ a :: after

namespace Inserted

variable {a : α} {earlier later : List α} {p : α → Bool}

theorem head (a : α) (l : List α) : Inserted a l (a :: l) := ⟨[], l, rfl, rfl⟩

theorem cons (h : Inserted a earlier later) (b : α) : Inserted a (b :: earlier) (b :: later) := by
  obtain ⟨before, after, rfl, rfl⟩ := h
  exact ⟨b :: before, after, rfl, rfl⟩

theorem nil (h : Inserted a [] later) : later = [a] := by
  obtain ⟨before, after, he, rfl⟩ := h
  obtain ⟨rfl, rfl⟩ := List.append_eq_nil_iff.mp he.symm
  rfl

theorem length (h : Inserted a earlier later) : later.length = earlier.length + 1 := by
  obtain ⟨before, after, rfl, rfl⟩ := h
  simp only [List.length_append, List.length_cons]
  omega

theorem mem (h : Inserted a earlier later) : a ∈ later := by
  obtain ⟨before, after, _, rfl⟩ := h
  exact List.mem_append_right before List.mem_cons_self

theorem filter (h : Inserted a earlier later) (hp : p a = true) :
    Inserted a (earlier.filter p) (later.filter p) := by
  obtain ⟨before, after, rfl, rfl⟩ := h
  refine ⟨before.filter p, after.filter p, List.filter_append .., ?_⟩
  rw [List.filter_append, List.filter_cons_of_pos hp]

theorem filter_of_not (h : Inserted a earlier later) (hp : p a = false) :
    later.filter p = earlier.filter p := by
  obtain ⟨before, after, rfl, rfl⟩ := h
  rw [List.filter_append, List.filter_append, List.filter_cons_of_neg (by simp [hp])]

theorem find?_of_not (h : Inserted a earlier later) (hp : p a = false) :
    later.find? p = earlier.find? p := by
  rw [← List.head?_filter, ← List.head?_filter, h.filter_of_not hp]

theorem find?_of_first (h : Inserted a earlier later) (hp : p a = true)
    (hn : earlier.filter p = []) : later.find? p = some a := by
  have hi := h.filter hp
  rw [hn] at hi
  rw [← List.head?_filter, hi.nil, List.head?_cons]

end Inserted

section Erase

variable (p : α → Bool) (l : List α)

theorem filter_eraseP : (l.eraseP p).filter p = (l.filter p).tail := by
  induction l with
  | nil => rfl
  | cons a l ih =>
    by_cases ha : p a = true
    · rw [List.eraseP_cons_of_pos ha, List.filter_cons_of_pos ha, List.tail_cons]
    · rw [List.eraseP_cons_of_neg ha, List.filter_cons_of_neg ha, List.filter_cons_of_neg ha, ih]

theorem filter_not_eraseP : (l.eraseP p).filter (fun a => !p a) = l.filter (fun a => !p a) := by
  induction l with
  | nil => rfl
  | cons a l ih =>
    by_cases ha : p a = true
    · rw [List.eraseP_cons_of_pos ha, List.filter_cons_of_neg (by simp [ha])]
    · rw [List.eraseP_cons_of_neg ha, List.filter_cons_of_pos (by simp [ha]),
        List.filter_cons_of_pos (by simp [ha]), ih]

theorem filter_eraseP_of_not {p : α → Bool} {q : α → Bool} (h : ∀ a, q a = true → p a = false)
    (l : List α) : (l.eraseP p).filter q = l.filter q := by
  have hkept : ∀ m : List α, (m.filter (fun a => !p a)).filter q = m.filter q := by
    intro m
    rw [List.filter_filter]
    apply List.filter_congr
    intro a _
    cases hq : q a with
    | false => rfl
    | true => simp [h a hq]
  rw [← hkept, filter_not_eraseP, hkept]

end Erase

theorem forall₂_tail {β : Type*} {R : α → β → Prop} {l : List α} {m : List β}
    (h : List.Forall₂ R l m) : List.Forall₂ R l.tail m.tail := by
  cases h with
  | nil => exact List.Forall₂.nil
  | cons _ hrest => exact hrest

section Placed

variable {key : α → ℕ} {a : α} {earlier later : List α}

/-- `later` is `earlier` with `a` behind all that `key` does not put after it. -/
def Placed (key : α → ℕ) (a : α) (earlier later : List α) : Prop :=
  ∃ before after, earlier = before ++ after ∧ later = before ++ a :: after ∧
    (∀ b ∈ before, key b ≤ key a) ∧ ∀ b ∈ after, key a < key b

namespace Placed

theorem inserted (h : Placed key a earlier later) : Inserted a earlier later := by
  obtain ⟨before, after, he, hl, _⟩ := h
  exact ⟨before, after, he, hl⟩

theorem pairwise (h : Placed key a earlier later)
    (hs : earlier.Pairwise (fun b c => key b ≤ key c)) :
    later.Pairwise (fun b c => key b ≤ key c) := by
  obtain ⟨before, after, rfl, rfl, hbefore, hafter⟩ := h
  obtain ⟨hleft, hright, hcross⟩ := List.pairwise_append.mp hs
  refine List.pairwise_append.mpr ⟨hleft, List.pairwise_cons.mpr ⟨?_, hright⟩, ?_⟩
  · exact fun b hb => Nat.le_of_lt (hafter b hb)
  · intro b hb c hc
    rcases List.mem_cons.mp hc with rfl | hc
    · exact hbefore b hb
    · exact hcross b hb c hc

theorem filter_same {p : α → Bool} (h : Placed key a earlier later) (hp : p a = true)
    (hkey : ∀ b, p b = true → key b = key a) : later.filter p = earlier.filter p ++ [a] := by
  obtain ⟨before, after, rfl, rfl, _, hafter⟩ := h
  have hnone : after.filter p = [] := by
    apply List.filter_eq_nil_iff.mpr
    intro b hb hpb
    exact absurd (hkey b hpb) (Nat.ne_of_gt (hafter b hb))
  rw [List.filter_append, List.filter_append, List.filter_cons_of_pos hp, hnone, List.append_nil]

end Placed

end Placed

inductive Chain (next : π → Option π) : Option π → List π → Prop
  | nil : Chain next none []
  | cons {p : π} {ps : List π} : Chain next (next p) ps → Chain next (some p) (p :: ps)

/-- The loop that walks a chain looking for `target`; `none` when `fuel` steps are not enough. -/
def search [DecidableEq π] (next : π → Option π) (target : π) : ℕ → Option π → Option Bool
  | _, none => some false
  | 0, some _ => none
  | fuel + 1, some p => if p = target then some true else search next target fuel (next p)

theorem search_chain [DecidableEq π] {next : π → Option π} {target : π} {head : Option π}
    {ps : List π} (h : Chain next head ps) {fuel : ℕ} (hf : ps.length ≤ fuel) :
    search next target fuel head = some (decide (target ∈ ps)) := by
  induction h generalizing fuel with
  | nil => cases fuel <;> simp [search]
  | @cons p ps h ih =>
    obtain ⟨n, rfl⟩ : ∃ n, fuel = n + 1 := ⟨fuel - 1, by rw [List.length_cons] at hf; omega⟩
    have hn : ps.length ≤ n := by rw [List.length_cons] at hf; omega
    rw [search]
    by_cases hp : p = target
    · simp [hp]
    · simp [hp, ih hn, Ne.symm hp]

end IoTNode.Foundations
