import Mathlib.Data.List.Induction

set_option autoImplicit false

namespace IoTNode.Foundations

variable {α β : Type*}

def latest (observe : α → Option β) (default : β) (history : List α) : β :=
  (history.reverse.findSome? observe).getD default

@[simp] theorem latest_nil (observe : α → Option β) (default : β) :
    latest observe default [] = default := rfl

theorem latest_snoc (observe : α → Option β) (default : β) (history : List α) (a : α) :
    latest observe default (history ++ [a]) = (observe a).getD (latest observe default history) := by
  unfold latest
  rw [List.reverse_append, List.reverse_singleton, List.singleton_append, List.findSome?_cons]
  cases observe a <;> rfl

theorem latest_append (observe : α → Option β) (default : β) (past recent : List α) :
    latest observe default (past ++ recent) =
      latest observe (latest observe default past) recent := by
  induction recent using List.reverseRecOn with
  | nil => simp
  | append_singleton recent a ih => rw [← List.append_assoc, latest_snoc, latest_snoc, ih]

def sinceBackwards (restart : List α → α → Bool) : List α → List α
  | [] => []
  | a :: past => if restart past.reverse a then [] else a :: sinceBackwards restart past

/-- The entries after the last one that restarts the history, given what came before it. -/
def since (restart : List α → α → Bool) (history : List α) : List α :=
  (sinceBackwards restart history.reverse).reverse

@[simp] theorem since_nil (restart : List α → α → Bool) : since restart [] = [] := rfl

theorem since_snoc (restart : List α → α → Bool) (history : List α) (a : α) :
    since restart (history ++ [a]) =
      if restart history a then [] else since restart history ++ [a] := by
  unfold since
  rw [List.reverse_append, List.reverse_singleton, List.singleton_append, sinceBackwards,
    List.reverse_reverse]
  split_ifs
  · rfl
  · rw [List.reverse_cons]

def latestGivenBackwards (observe : List α → α → Option β) (default : β) : List α → β
  | [] => default
  | a :: past =>
    (observe past.reverse a).getD (latestGivenBackwards observe default past)

/-- As `latest`, where what an entry shows depends on the entries before it. -/
def latestGiven (observe : List α → α → Option β) (default : β) (history : List α) : β :=
  latestGivenBackwards observe default history.reverse

@[simp] theorem latestGiven_nil (observe : List α → α → Option β) (default : β) :
    latestGiven observe default [] = default := rfl

theorem latestGiven_snoc (observe : List α → α → Option β) (default : β) (history : List α)
    (a : α) :
    latestGiven observe default (history ++ [a]) =
      (observe history a).getD (latestGiven observe default history) := by
  unfold latestGiven
  rw [List.reverse_append, List.reverse_singleton, List.singleton_append, latestGivenBackwards,
    List.reverse_reverse]

end IoTNode.Foundations
