import Mathlib.Data.List.Basic

set_option autoImplicit false

namespace IoTNode.Foundations

structure BoundedQueue (α : Type*) (capacity : ℕ) where
  items : List α
  bounded : items.length ≤ capacity
deriving DecidableEq

namespace BoundedQueue

variable {α : Type*} {capacity : ℕ}

def empty : BoundedQueue α capacity := ⟨[], Nat.zero_le _⟩

def Full (q : BoundedQueue α capacity) : Prop := q.items.length = capacity

instance (q : BoundedQueue α capacity) : Decidable q.Full :=
  inferInstanceAs (Decidable (q.items.length = capacity))

def send (q : BoundedQueue α capacity) (a : α) : Option (BoundedQueue α capacity) :=
  if h : q.items.length < capacity then
    some ⟨q.items ++ [a], by rw [List.length_append]; exact h⟩
  else none

theorem tail_bounded (q : BoundedQueue α capacity) : q.items.tail.length ≤ capacity := by
  rw [List.length_tail]
  exact Nat.le_trans (Nat.sub_le _ _) q.bounded

def receive (q : BoundedQueue α capacity) : Option (α × BoundedQueue α capacity) :=
  q.items.head?.map (fun a => (a, ⟨q.items.tail, q.tail_bounded⟩))

theorem ext_items {q r : BoundedQueue α capacity} (h : q.items = r.items) : q = r := by
  cases q; cases r; cases h; rfl

theorem length_lt_of_not_full {q : BoundedQueue α capacity} (h : ¬ q.Full) :
    q.items.length < capacity := Nat.lt_of_le_of_ne q.bounded h

theorem send_some {q r : BoundedQueue α capacity} {a : α} :
    q.send a = some r ↔ ¬ q.Full ∧ r.items = q.items ++ [a] := by
  unfold send
  split_ifs with h
  · rw [Option.some.injEq]
    constructor
    · rintro rfl
      exact ⟨Nat.ne_of_lt h, rfl⟩
    · rintro ⟨_, hr⟩
      exact ext_items hr.symm
  · have hf : q.Full := Nat.le_antisymm q.bounded (Nat.le_of_not_lt h)
    simp [hf]

theorem send_none {q : BoundedQueue α capacity} {a : α} : q.send a = none ↔ q.Full := by
  unfold send
  split_ifs with h
  · simp only [false_iff]
    exact Nat.ne_of_lt h
  · simp only [true_iff]
    exact Nat.le_antisymm q.bounded (Nat.le_of_not_lt h)

theorem receive_some {q r : BoundedQueue α capacity} {a : α} :
    q.receive = some (a, r) ↔ q.items = a :: r.items := by
  obtain ⟨items, bounded⟩ := q
  cases items with
  | nil => simp [receive]
  | cons b rest =>
    simp only [receive, List.head?_cons, Option.map_some, List.tail_cons, Option.some.injEq,
      Prod.mk.injEq, List.cons.injEq]
    apply and_congr_right'
    constructor
    · rintro rfl
      rfl
    · exact fun hr => ext_items hr

theorem receive_none {q : BoundedQueue α capacity} : q.receive = none ↔ q.items = [] := by
  unfold receive
  rw [Option.map_eq_none_iff, List.head?_eq_none_iff]

def Accounts (accepted received : List α) (q : BoundedQueue α capacity) : Prop :=
  accepted = received ++ q.items

theorem accounts_empty : Accounts [] [] (empty : BoundedQueue α capacity) := rfl

theorem Accounts.send {accepted received : List α} {q r : BoundedQueue α capacity} {a : α}
    (h : Accounts accepted received q) (hs : q.send a = some r) :
    Accounts (accepted ++ [a]) received r := by
  unfold Accounts at *
  rw [h, (send_some.mp hs).2, List.append_assoc]

theorem Accounts.receive {accepted received : List α} {q r : BoundedQueue α capacity} {a : α}
    (h : Accounts accepted received q) (hr : q.receive = some (a, r)) :
    Accounts accepted (received ++ [a]) r := by
  unfold Accounts at *
  rw [h, receive_some.mp hr, List.append_assoc]
  rfl

theorem Accounts.isPrefix {accepted received : List α} {q : BoundedQueue α capacity}
    (h : Accounts accepted received q) : received <+: accepted := ⟨q.items, h.symm⟩

end BoundedQueue

end IoTNode.Foundations
