import IoTNode.ConnectionSignals

set_option autoImplicit false

namespace IoTNode.MainLoop

open Foundations Lobaro LEDResource LedRefinement

inductive LedAction
  | iterate (connected : Bool)
  | request (lib : LobaroLibrary) (request response : LobaroCoapMessage)

def LedAction.disconnected : LedAction → Bool
  | .iterate connected => !connected
  | .request _ _ _ => false

def disconnections (actions : List LedAction) : ℕ := actions.countP LedAction.disconnected

variable (json : JsonLibrary)

def request (s : MainLoop) (lib : LobaroLibrary) (request response : LobaroCoapMessage) :
    Option MainLoop :=
  match handleRequest lib json s.statusLED request response with
  | .error _ => none
  | .ok (led, _) => some { s with statusLED := led }

def ledSystem : System MainLoop LedAction where
  init s := s = {}
  step s
    | .iterate connected => some (s.iteration connected)
    | .request lib request response => s.request json lib request response

/-- What the LED is told after the `k`th iteration without a connection. -/
structure Blinks (led : LEDResource) (k : ℕ) : Prop where
  mode : led.mode = .showStatus
  red : (led.duty led.ledcRedChannel).toNat = if k % 2 = 1 then 120 else 0
  green : led.duty led.ledcGreenChannel = 0
  blue : led.duty led.ledcBlueChannel = 0

def Refined (led : LEDResource) : Prop := ∃ m, Refines led m

section Steps

variable {json} {s t : MainLoop} {led : LEDResource}

theorem Refined.apply (h : Refined led) (call : LedCall) : Refined (call.apply led) := by
  obtain ⟨m, hm⟩ := h
  exact ⟨_, apply_refines hm call⟩

theorem Refined.applyMembers (h : Refined led) (color : Option Rgb) (mode : Option Mode) :
    Refined (led.applyMembers color mode) := by
  have hcolor : Refined (led.applyColor color) := by
    cases color with
    | none => exact h
    | some c => exact h.apply (.setColor c.red c.green c.blue)
  cases mode with
  | none => exact hcolor
  | some m => exact hcolor.apply (.setMode m)

theorem Refined.calls (h : Refined led) (calls : List LedCall) :
    Refined (calls.foldl LedCall.apply led) := by
  induction calls generalizing led with
  | nil => exact h
  | cons call calls ih => exact ih (h.apply call)

theorem request_steps {lib : LobaroLibrary} {req response : LobaroCoapMessage}
    (h : s.request json lib req response = some t) :
    t.level = s.level ∧ (Refined s.statusLED → Refined t.statusLED) := by
  unfold request at h
  split at h
  · cases h
  · rename_i led outcome hr
    obtain rfl := Option.some.inj h
    refine ⟨rfl, fun hled => ?_⟩
    rcases handleRequest_ok lib json hr with
      ⟨rfl, _⟩ | ⟨rfl, _⟩ | ⟨posted, color, _, _, rfl, _⟩
    · exact hled
    · exact hled
    · exact hled.applyMembers color (readMode posted)

theorem iteration_refined (h : Refined s.statusLED) (connected : Bool) :
    Refined (s.iteration connected).statusLED := by
  rw [iteration_calls]
  exact h.calls _

theorem iteration_level (connected : Bool) :
    (s.iteration connected).level =
      if connected then s.level else if s.level ≠ 0 then 0 else 1 := by
  unfold iteration
  split_ifs <;> rfl

theorem iteration_getColor (connected : Bool) :
    (s.iteration connected).statusLED.getColor = s.statusLED.getColor := by
  unfold iteration
  split_ifs <;> simp

theorem model_takeover (m : LedModel) (red green blue : UInt8) (fadeTime : ℤ) :
    ((m.step (.setMode .showStatus)).step (.setStatusColor red green blue fadeTime)).mode =
        .showStatus ∧
      ((m.step (.setMode .showStatus)).step (.setStatusColor red green blue fadeTime)).shown =
        ⟨red, green, blue⟩ := by
  have hmode : (m.step (.setMode .showStatus)).mode = .showStatus := by
    unfold LedModel.step
    dsimp only
    split_ifs with hm
    · exact hm
    · rfl
  generalize m.step (.setMode .showStatus) = shown at hmode
  simp [LedModel.step, LedModel.shown, hmode]

theorem takeover_blinks (h : Refined led) {level : ℤ} {k : ℕ}
    (hl : level = if k % 2 = 1 then 1 else 0) :
    Blinks ((led.setMode .showStatus).setStatusColor (UInt8.ofInt (level * 30)) 0 0 100) k := by
  obtain ⟨m, hm⟩ := h
  have hrefines := apply_refines (apply_refines hm (.setMode .showStatus))
    (.setStatusColor (UInt8.ofInt (level * 30)) 0 0 100)
  obtain ⟨hmode, hshown⟩ := model_takeover m (UInt8.ofInt (level * 30)) 0 0 100
  obtain ⟨hred, _, _⟩ := hrefines.shows
  have hgreen := hrefines.dutyGreen
  have hblue := hrefines.dutyBlue
  rw [hshown] at hred hgreen hblue
  refine ⟨hrefines.mode.trans hmode, hred.trans ?_, hgreen, hblue⟩
  subst hl
  split_ifs <;> decide

theorem iteration_blinks (h : Refined s.statusLED) {k : ℕ}
    (hl : s.level = if k % 2 = 1 then 1 else 0) :
    (s.iteration false).level = (if (k + 1) % 2 = 1 then 1 else 0) ∧
      Blinks (s.iteration false).statusLED (k + 1) := by
  have hlevel : (s.iteration false).level = if (k + 1) % 2 = 1 then 1 else 0 := by
    rw [iteration_level, if_neg Bool.false_ne_true, hl]
    split_ifs <;> omega
  exact ⟨hlevel, takeover_blinks h hlevel⟩

end Steps

/-- The toggle of the loop counts the iterations without a connection. -/
structure Counting (actions : List LedAction) (s : MainLoop) : Prop where
  level : s.level = if disconnections actions % 2 = 1 then 1 else 0
  refined : Refined s.statusLED

theorem disconnections_snoc (actions : List LedAction) (a : LedAction) :
    disconnections (actions ++ [a]) = disconnections actions + if a.disconnected then 1 else 0 := by
  unfold disconnections
  rw [List.countP_append, List.countP_singleton]

theorem Counting.step {json : JsonLibrary} {actions : List LedAction} {s t : MainLoop}
    (h : Counting actions s) {a : LedAction} (ht : (ledSystem json).step s a = some t) :
    Counting (actions ++ [a]) t := by
  cases a with
  | iterate connected =>
    obtain rfl := Option.some.inj ht
    refine ⟨?_, iteration_refined h.refined connected⟩
    rw [disconnections_snoc]
    cases connected with
    | true =>
      have hsame : (s.iteration true).level = s.level := by rw [iteration_level, if_pos rfl]
      rw [hsame]
      exact h.level
    | false => exact (iteration_blinks h.refined h.level).1
  | request lib req response =>
    obtain ⟨hlevel, hled⟩ := request_steps ht
    refine ⟨?_, hled h.refined⟩
    rw [disconnections_snoc, hlevel]
    exact h.level

theorem counting_run {json : JsonLibrary} {actions : List LedAction} {s : MainLoop}
    (h : (ledSystem json).run {} actions = some s) : Counting actions s := by
  induction actions using List.reverseRecOn generalizing s with
  | nil =>
    obtain rfl := Option.some.inj h
    exact ⟨rfl, _, refines_start⟩
  | append_singleton actions a ih =>
    obtain ⟨u, hu, hs⟩ := (ledSystem json).run_snoc_some.mp h
    exact (ih hu).step hs

theorem disconnection_blinks (actions : List LedAction) (s : MainLoop)
    (h : (ledSystem json).run {} actions = some s) :
    (∀ t, (ledSystem json).step s (.iterate false) = some t →
      Blinks t.statusLED (disconnections (actions ++ [.iterate false]))) ∧
    ∀ connected t, (ledSystem json).step s (.iterate connected) = some t →
      t.statusLED.getColor = s.statusLED.getColor := by
  have hcounting := counting_run h
  constructor
  · intro t ht
    obtain rfl := Option.some.inj ht
    rw [disconnections_snoc]
    exact (iteration_blinks hcounting.refined hcounting.level).2
  · intro connected t ht
    obtain rfl := Option.some.inj ht
    exact iteration_getColor connected

theorem disconnection_blinks_twice :
    ∃ s t, (ledSystem statusModeJson).run {} [.iterate false, .iterate true, .iterate true,
        .request referenceLibrary statusModePost {}] = some s ∧
      (ledSystem statusModeJson).step s (.iterate false) = some t ∧ Blinks t.statusLED 2 ∧
      t.statusLED.getColor = s.statusLED.getColor := by
  obtain ⟨hblinks, hcolor⟩ := disconnection_blinks statusModeJson [.iterate false, .iterate true,
    .iterate true, .request referenceLibrary statusModePost {}] _ rfl
  exact ⟨_, _, rfl, rfl, hblinks _ rfl, hcolor false _ rfl⟩

end IoTNode.MainLoop
