import IoTNode.Dispatch

set_option autoImplicit false

namespace IoTNode.Lobaro

open Coap

/-- The loop of `~LobaroCoapResource`: `it` is an index, and `erase(it)` keeps it. -/
def destroyLoop (this : ResourceAddr) (resources : List ResourceAddr) (it : ℕ) :
    Except Abort (List ResourceAddr) :=
  if it = resources.length then .ok resources
  else
    match h : resources[it]? with
    -- `it != end()` does not stop an iterator that is past the end
    | none => .error .danglingPointer
    | some resource =>
      if resource = this then destroyLoop this (resources.eraseIdx it) (it + 1)
      else destroyLoop this resources (it + 1)
termination_by resources.length + 1 - it
decreasing_by
  all_goals
    have hlt := (List.getElem?_eq_some_iff.mp h).1
    have hle := List.length_eraseIdx_le resources it
    omega

section Loop

variable {this : ResourceAddr} {resources before rest : List ResourceAddr}

theorem destroyLoop_end : destroyLoop this resources resources.length = .ok resources := by
  rw [destroyLoop, if_pos rfl]

theorem destroyLoop_past : destroyLoop this resources (resources.length + 1) =
    .error .danglingPointer := by
  rw [destroyLoop, if_neg (Nat.succ_ne_self _)]
  split
  · rfl
  · rename_i resource h
    have hlt := (List.getElem?_eq_some_iff.mp h).1
    omega

theorem destroyLoop_at (resource : ResourceAddr) :
    destroyLoop this (before ++ resource :: rest) before.length =
      if resource = this then destroyLoop this (before ++ rest) (before.length + 1)
      else destroyLoop this (before ++ resource :: rest) (before.length + 1) := by
  have hend : before.length ≠ (before ++ resource :: rest).length := by simp
  have herase : (before ++ resource :: rest).eraseIdx before.length = before ++ rest := by
    rw [List.eraseIdx_append_of_length_le (Nat.le_refl _), Nat.sub_self]
    rfl
  rw [destroyLoop, if_neg hend]
  split
  · rename_i hnone
    simp at hnone
  · rename_i found hfound
    rw [List.getElem?_append_right (Nat.le_refl _), Nat.sub_self, List.getElem?_cons_zero,
      Option.some.injEq] at hfound
    rw [← hfound, herase]

theorem destroyLoop_skip (before skipped rest : List ResourceAddr) (h : this ∉ skipped) :
    destroyLoop this (before ++ (skipped ++ rest)) before.length =
      destroyLoop this (before ++ (skipped ++ rest)) (before.length + skipped.length) := by
  induction skipped generalizing before with
  | nil => rfl
  | cons resource skipped ih =>
    rw [List.mem_cons, not_or] at h
    obtain ⟨hne, hskipped⟩ := h
    have hnext := ih (before ++ [resource]) hskipped
    rw [List.append_assoc, List.singleton_append, List.length_append, List.length_singleton]
      at hnext
    rw [List.cons_append, destroyLoop_at, if_neg (Ne.symm hne), hnext, List.length_cons,
      Nat.add_assoc, Nat.add_comm 1]

theorem destroyLoop_absent (h : this ∉ resources) :
    destroyLoop this resources 0 = .ok resources := by
  have hskip := destroyLoop_skip [] resources [] h
  rw [List.nil_append, List.append_nil, List.length_nil, Nat.zero_add] at hskip
  rw [hskip, destroyLoop_end]

theorem destroyLoop_present (hb : this ∉ before) (hr : this ∉ rest) :
    destroyLoop this (before ++ this :: rest) 0 =
      if rest = [] then .error .danglingPointer else .ok (before ++ rest) := by
  have hskip := destroyLoop_skip [] before (this :: rest) hb
  rw [List.nil_append, List.length_nil, Nat.zero_add] at hskip
  rw [hskip, destroyLoop_at, if_pos rfl]
  cases rest with
  | nil => rw [if_pos rfl, List.append_nil, destroyLoop_past]
  | cons next rest =>
    -- the entry after the erased one is never looked at
    have hafter := destroyLoop_skip (before ++ [next]) rest []
      (fun hm => hr (List.mem_cons_of_mem next hm))
    rw [List.append_nil, List.append_assoc, List.singleton_append, List.length_append,
      List.length_singleton] at hafter
    have hlength : before.length + 1 + rest.length = (before ++ next :: rest).length := by
      rw [List.length_append, List.length_cons]
      omega
    rw [if_neg (List.cons_ne_nil next rest), hafter, hlength, destroyLoop_end]

theorem filter_others (h : this ∉ resources) : resources.filter (· ≠ this) = resources := by
  apply List.filter_eq_self.mpr
  intro resource hr
  exact decide_eq_true (fun he => h (he ▸ hr))

theorem destroyLoop_eq (hd : resources.Nodup) :
    destroyLoop this resources 0 =
      if resources.getLast? = some this then .error .danglingPointer
      else .ok (resources.filter (· ≠ this)) := by
  by_cases hm : this ∈ resources
  · obtain ⟨before, rest, rfl⟩ := List.append_of_mem hm
    obtain ⟨_, hrest, hdisjoint⟩ := List.nodup_append.mp hd
    have hb : this ∉ before := fun h => hdisjoint this h this List.mem_cons_self rfl
    have hr : this ∉ rest := (List.nodup_cons.mp hrest).1
    have hfilter : (before ++ this :: rest).filter (· ≠ this) = before ++ rest := by
      rw [List.filter_append, List.filter_cons_of_neg (by simp), filter_others hb,
        filter_others hr]
    rw [destroyLoop_present hb hr, hfilter]
    cases rest with
    | nil => simp
    | cons next rest =>
      have hlast : (before ++ this :: next :: rest).getLast? ≠ some this := by
        rw [List.getLast?_append_cons, List.getLast?_cons_cons]
        exact fun h => hr (List.mem_of_getLast? h)
      rw [if_neg (List.cons_ne_nil next rest), if_neg hlast]
  · rw [destroyLoop_absent hm, filter_others hm,
      if_neg (fun h => hm (List.mem_of_getLast? h))]

end Loop

/-- The vectors that creations leave have no duplicates. -/
theorem resources_nodup {α : Type} (bits : ResOpt) (library : CoAPRes → CoAPResData)
    (history : CreationHistory α) :
    (Registry.run bits library history.creations).resources.Nodup := by
  rw [(Registry.holds_run bits library _ history.separate).resources]
  exact List.Pairwise.map Creation.addr (fun _ _ h => h.1)
    (history.separate.sublist List.filter_sublist)

def DestroysOnly (this : ResourceAddr) (resources : List ResourceAddr) : Prop :=
  destroyLoop this resources 0 = .ok (resources.filter (· ≠ this))

theorem destroysOnly_iff (this : ResourceAddr) (resources : List ResourceAddr)
    (hd : resources.Nodup) : DestroysOnly this resources ↔ resources.getLast? ≠ some this := by
  unfold DestroysOnly
  rw [destroyLoop_eq hd]
  split_ifs with hlast
  · exact iff_of_false (fun h => by cases h) (not_not.mpr hlast)
  · exact iff_of_true rfl hlast

theorem destroysOnly_iff_first : DestroysOnly 0 (Registry.run ⟨1, 2, 4, 8⟩
    (fun _ => ⟨0, false, none⟩) Registry.threeCreations.creations).resources :=
  (destroysOnly_iff 0 _ (resources_nodup _ _ Registry.threeCreations)).mpr (by decide)

theorem destroysOnly_counterexample : ¬ DestroysOnly 5 [4, 5] := by
  intro h
  unfold DestroysOnly at h
  rw [destroyLoop_eq (by decide), if_pos (by decide)] at h
  cases h

end IoTNode.Lobaro
