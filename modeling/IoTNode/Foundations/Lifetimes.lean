import IoTNode.Foundations.Systems
import Mathlib.Data.List.Nodup

set_option autoImplicit false

namespace IoTNode.Foundations

inductive Lifetime (ι : Type*)
  | create (i : ι)
  | use (i : ι)
  | delete (i : ι)
deriving DecidableEq

structure Ledger (ι : Type*) where
  live : List ι
  retired : List ι
deriving DecidableEq

namespace Ledger

variable {ι : Type*}

def empty : Ledger ι := ⟨[], []⟩

def Within (p : ι → Prop) (l : Ledger ι) : Prop := ∀ i, i ∈ l.live ∨ i ∈ l.retired → p i

theorem within_empty (p : ι → Prop) : Within p empty := by
  rintro i (hi | hi) <;> exact absurd hi List.not_mem_nil

variable [DecidableEq ι]

/-- The ledger stops at a use or a deletion of what does not exist, and at a second creation. -/
def system : System (Ledger ι) (Lifetime ι) where
  init l := l = empty
  step l
    | .create i => if i ∈ l.live ∨ i ∈ l.retired then none else some { l with live := i :: l.live }
    | .use i => if i ∈ l.live then some l else none
    | .delete i => if i ∈ l.live then some ⟨l.live.erase i, i :: l.retired⟩ else none

theorem step_create {l : Ledger ι} {i : ι} (hl : i ∉ l.live) (hr : i ∉ l.retired) :
    system.step l (.create i) = some { l with live := i :: l.live } :=
  if_neg (by simp [hl, hr])

theorem step_use {l : Ledger ι} {i : ι} (h : i ∈ l.live) : system.step l (.use i) = some l :=
  if_pos h

theorem step_delete {l : Ledger ι} {i : ι} (h : i ∈ l.live) :
    system.step l (.delete i) = some ⟨l.live.erase i, i :: l.retired⟩ := if_pos h

/-- The events keep to the ledger and leave just `live`, and all they name meets `p`. -/
def Leaves (p : ι → Prop) (events : List (Lifetime ι)) (live : List ι) : Prop :=
  ∃ l, system.run empty events = some l ∧ Within p l ∧ l.live = live

section Leaves

variable {p q : ι → Prop} {events : List (Lifetime ι)} {live : List ι} {i : ι}

theorem leaves_nil : Leaves p [] [] := ⟨empty, rfl, within_empty p, rfl⟩

theorem Leaves.create (h : Leaves p events live) (hi : ¬ p i) (hpq : ∀ j, p j → q j) (hq : q i) :
    Leaves q (events ++ [.create i]) (i :: live) := by
  obtain ⟨l, hr, hw, rfl⟩ := h
  have hstep := step_create (fun hl => hi (hw i (Or.inl hl))) (fun hr => hi (hw i (Or.inr hr)))
  refine ⟨_, system.run_snoc_some.mpr ⟨l, hr, hstep⟩, ?_, rfl⟩
  rintro j (hj | hj)
  · rcases List.mem_cons.mp hj with rfl | hj
    · exact hq
    · exact hpq j (hw j (Or.inl hj))
  · exact hpq j (hw j (Or.inr hj))

theorem Leaves.use (h : Leaves p events live) (hi : i ∈ live) :
    Leaves p (events ++ [.use i]) live := by
  obtain ⟨l, hr, hw, rfl⟩ := h
  exact ⟨l, system.run_snoc_some.mpr ⟨l, hr, step_use hi⟩, hw, rfl⟩

theorem Leaves.delete (h : Leaves p events (i :: live)) :
    Leaves p (events ++ [.delete i]) live := by
  obtain ⟨l, hr, hw, hl⟩ := h
  have hi : i ∈ l.live := hl ▸ List.mem_cons_self
  refine ⟨_, system.run_snoc_some.mpr ⟨l, hr, step_delete hi⟩, ?_, ?_⟩
  · rintro j (hj | hj)
    · exact hw j (Or.inl (List.mem_of_mem_erase hj))
    · rcases List.mem_cons.mp hj with rfl | hj
      · exact hw j (Or.inl hi)
      · exact hw j (Or.inr hj)
  · rw [hl]
    exact List.erase_cons_head i live

end Leaves

theorem always_empty {Q : Ledger ι → Prop} (h : Q empty) : system.Always Q empty [] := by
  intro before after t he hr
  rw [(List.append_eq_nil_iff.mp he.symm).1] at hr
  exact Option.some.inj hr ▸ h

def created : Lifetime ι → Option ι
  | .create i => some i
  | _ => none

def deleted : Lifetime ι → Option ι
  | .delete i => some i
  | _ => none

theorem run_account {l m : Ledger ι} {events : List (Lifetime ι)}
    (h : system.run l events = some m) :
    (m.live ++ m.retired).Perm (events.filterMap created ++ (l.live ++ l.retired)) ∧
      m.retired.Perm (events.filterMap deleted ++ l.retired) ∧
      ((l.live ++ l.retired).Nodup → (m.live ++ m.retired).Nodup) := by
  induction events generalizing l with
  | nil =>
    obtain rfl := Option.some.inj h
    exact ⟨.refl _, .refl _, id⟩
  | cons e events ih =>
    obtain ⟨k, hk, hm⟩ := system.run_cons_some.mp h
    obtain ⟨hperm, hret, hnodup⟩ := ih hm
    cases e with
    | create i =>
      obtain ⟨hi, hk⟩ := Option.ite_none_left_eq_some.mp hk
      obtain rfl := Option.some.inj hk
      refine ⟨hperm.trans ?_, hret, fun hl => hnodup ?_⟩
      · simp only [List.filterMap_cons, created, List.cons_append]
        exact List.perm_middle
      · rw [List.cons_append, List.nodup_cons, List.mem_append]
        exact ⟨hi, hl⟩
    | use i =>
      obtain ⟨_, hk⟩ := Option.ite_none_right_eq_some.mp hk
      obtain rfl := Option.some.inj hk
      exact ⟨hperm, hret, hnodup⟩
    | delete i =>
      obtain ⟨hi, hk⟩ := Option.ite_none_right_eq_some.mp hk
      obtain rfl := Option.some.inj hk
      have hmove : (l.live.erase i ++ i :: l.retired).Perm (l.live ++ l.retired) :=
        List.perm_middle.trans ((List.perm_cons_erase hi).symm.append_right _)
      refine ⟨hperm.trans (hmove.append_left _), hret.trans ?_, fun hl => hnodup ?_⟩
      · simp only [List.filterMap_cons, deleted, List.cons_append]
        exact List.perm_middle
      · exact hmove.nodup_iff.mpr hl

theorem count_deleted {m : Ledger ι} {events : List (Lifetime ι)}
    (h : system.run empty events = some m) (hm : m.live = []) {i : ι}
    (hi : i ∈ events.filterMap created) : (events.filterMap deleted).count i = 1 := by
  obtain ⟨hperm, hret, hnodup⟩ := run_account h
  have hn := hnodup (by simp [empty])
  rw [hm, List.nil_append] at hperm hn
  simp only [empty, List.append_nil] at hperm hret
  rw [← hret.count_eq, List.count_eq_one_of_mem hn (hperm.mem_iff.mpr hi)]

theorem deleted_nodup {m : Ledger ι} {events : List (Lifetime ι)}
    (h : system.run empty events = some m) : (events.filterMap deleted).Nodup := by
  obtain ⟨_, hret, hnodup⟩ := run_account h
  have hn := List.Nodup.of_append_right (hnodup (by simp [empty]))
  simpa [empty] using hret.nodup_iff.mp hn

theorem created_nodup {m : Ledger ι} {events : List (Lifetime ι)}
    (h : system.run empty events = some m) : (events.filterMap created).Nodup := by
  obtain ⟨hperm, _, hnodup⟩ := run_account h
  have hn := (hperm.nodup_iff).mp (hnodup (by simp [empty]))
  simpa [empty] using hn

end Ledger

end IoTNode.Foundations
