import IoTNode.LedRefinement
import IoTNode.MainLoop

set_option autoImplicit false

namespace IoTNode.MainLoop

open LedRefinement

def ledCalls (s : MainLoop) (connected : Bool) : List LedCall :=
  if connected then
    if s.lastConnectedState ≠ connected then [.setStatusColor 0 15 0 250] else [.setMode .user]
  else
    let level : ℤ := if s.level ≠ 0 then 0 else 1
    [.setMode .showStatus, .setStatusColor (UInt8.ofInt (level * 30)) 0 0 100]

theorem iteration_calls (s : MainLoop) (connected : Bool) :
    (s.iteration connected).statusLED = (s.ledCalls connected).foldl LedCall.apply s.statusLED := by
  unfold iteration ledCalls
  cases connected
  · rfl
  · by_cases h : s.lastConnectedState = true
    · simp [h, LedCall.apply]
    · simp [h, LedCall.apply]

def iterations (samples : List Bool) : MainLoop := samples.foldl iteration {}

def signal : LedCall := .setStatusColor 0 15 0 250

def Signals (before : List Bool) (connected : Bool) : Prop :=
  (signal ∈ (iterations before).ledCalls connected ↔
    connected = true ∧ before.getLast? ≠ some true) ∧
  (connected = true → before.getLast? = some true →
    (iterations before).ledCalls connected = [.setMode .user])

def AllSignalled (samples : List Bool) : Prop :=
  ∀ before connected after, samples = before ++ connected :: after → Signals before connected

theorem iteration_latches (s : MainLoop) (connected : Bool) :
    (s.iteration connected).lastConnectedState = (s.lastConnectedState || connected) := by
  unfold iteration
  cases connected
  · simp
  · by_cases h : s.lastConnectedState = true
    · simp [h]
    · simp [h]

/-- The loop remembers whether it was ever connected, not whether it was so last. -/
theorem iterations_latch (samples : List Bool) :
    (iterations samples).lastConnectedState = true ↔ true ∈ samples := by
  induction samples using List.reverseRecOn with
  | nil => decide
  | append_singleton samples connected ih =>
    unfold iterations at ih ⊢
    rw [List.foldl_append, List.foldl_cons, List.foldl_nil, iteration_latches, Bool.or_eq_true, ih,
      List.mem_append, List.mem_singleton, eq_comm (a := true)]

theorem ledCalls_disconnected (s : MainLoop) : signal ∉ s.ledCalls false := by
  unfold ledCalls signal
  simp

theorem ledCalls_fresh {s : MainLoop} (h : s.lastConnectedState ≠ true) :
    s.ledCalls true = [signal] := by
  unfold ledCalls
  rw [if_pos rfl, if_pos h]
  rfl

theorem ledCalls_latched {s : MainLoop} (h : s.lastConnectedState = true) :
    s.ledCalls true = [.setMode .user] := by
  unfold ledCalls
  rw [if_pos rfl, if_neg (not_not.mpr h)]

theorem signals_disconnected (before : List Bool) : Signals before false :=
  ⟨iff_of_false (ledCalls_disconnected _) (by simp), fun h => by cases h⟩

theorem signals_connected_iff (before : List Bool) :
    Signals before true ↔ (true ∈ before → before.getLast? = some true) := by
  unfold Signals
  rw [← iterations_latch]
  by_cases hl : (iterations before).lastConnectedState = true
  · rw [ledCalls_latched hl]
    by_cases hlast : before.getLast? = some true
    · simp [hlast, signal]
    · simp [hl, hlast, signal]
  · have hlast : before.getLast? ≠ some true :=
      fun h => hl ((iterations_latch before).mpr (List.mem_of_getLast? h))
    rw [ledCalls_fresh hl]
    simp [hl, hlast]

theorem allSignalled_iff (samples : List Bool) :
    AllSignalled samples ↔
      ∀ before after, samples = before ++ false :: true :: after → true ∉ before := by
  constructor
  · intro h before after he hb
    have hs := h (before ++ [false]) true after (by simp [he])
    have hlast := (signals_connected_iff _).mp hs (List.mem_append_left _ hb)
    rw [List.getLast?_append, List.getLast?_singleton] at hlast
    cases hlast
  · intro h before connected after he
    cases connected with
    | false => exact signals_disconnected before
    | true =>
      apply (signals_connected_iff before).mpr
      intro hb
      rcases List.eq_nil_or_concat before with rfl | ⟨earlier, last, rfl⟩
      · cases hb
      · rw [List.concat_eq_append] at *
        cases last with
        | true => simp
        | false =>
          -- a reconnection, which the condition excludes
          refine absurd ?_ (h earlier after (by simp [he]))
          simpa using hb

theorem allSignalled_counterexample : ¬ AllSignalled [true, false, true] := by
  intro h
  have hs := (h [true, false] true [] rfl).1
  exact absurd (hs.mpr ⟨rfl, by decide⟩) (by decide)

end IoTNode.MainLoop
