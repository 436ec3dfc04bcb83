import IoTNode.Led
import Mathlib.Algebra.Group.Nat.Defs

set_option autoImplicit false

namespace IoTNode.LedRefinement

open Foundations LEDResource

inductive LedCall
  | setColor (red green blue : UInt8)
  | setMode (mode : Mode)
  | setStatusColor (red green blue : UInt8) (fadeTime : ℤ)
deriving DecidableEq, Repr

def LedCall.apply (led : LEDResource) : LedCall → LEDResource
  | setColor red green blue => led.setColor red green blue
  | setMode mode => led.setMode mode
  | setStatusColor red green blue fadeTime => led.setStatusColor red green blue fadeTime

def run (calls : List LedCall) : LEDResource := calls.foldl LedCall.apply {}

def black : Rgb := ⟨0, 0, 0⟩

/-- What the resource is for: a user colour, a status colour, and the choice between them.
The status colour is forgotten whenever the mode changes. -/
structure LedModel where
  color : Rgb
  mode : Mode
  status : Rgb
deriving DecidableEq, Repr

namespace LedModel

def start : LedModel := ⟨black, .showStatus, black⟩

def step (m : LedModel) : LedCall → LedModel
  | .setColor red green blue => { m with color := ⟨red, green, blue⟩ }
  | .setMode mode => if m.mode = mode then m else { m with mode := mode, status := black }
  | .setStatusColor red green blue _ =>
    match m.mode with
    | .showStatus => { m with status := ⟨red, green, blue⟩ }
    | .user => m

def run (calls : List LedCall) : LedModel := calls.foldl step start

def shown (m : LedModel) : Rgb :=
  match m.mode with
  | .showStatus => m.status
  | .user => m.color

end LedModel

def level (c : UInt8) : UInt32 := c.toUInt32 <<< 2

structure Refines (led : LEDResource) (m : LedModel) : Prop where
  channels : led.ChannelsDistinct
  red : led.redValue = level m.color.red
  green : led.greenValue = level m.color.green
  blue : led.blueValue = level m.color.blue
  mode : led.mode = m.mode
  dutyRed : led.duty led.ledcRedChannel = level m.shown.red
  dutyGreen : led.duty led.ledcGreenChannel = level m.shown.green
  dutyBlue : led.duty led.ledcBlueChannel = level m.shown.blue
  bounded : ∀ f ∈ led.fades, f.targetDuty.toNat < 2 ^ kLedcResolution

theorem level_bounded (c : UInt8) : (level c).toNat < 2 ^ kLedcResolution := by
  have hc := c.toNat_lt
  unfold level kLedcResolution
  rw [shiftLeft_two_toNat]
  omega

theorem refines_start : Refines {} LedModel.start := by
  refine ⟨⟨?_, ?_, ?_⟩, rfl, rfl, rfl, rfl, rfl, rfl, rfl, ?_⟩
  · decide
  · decide
  · decide
  · intro f hf
    cases hf

theorem startFades_refines {led : LEDResource} {m : LedModel} {c : Rgb} {fadeTime : ℤ}
    (hc : led.ChannelsDistinct) (hr : led.redValue = level m.color.red)
    (hg : led.greenValue = level m.color.green) (hb : led.blueValue = level m.color.blue)
    (hm : led.mode = m.mode) (hs : m.shown = c)
    (hl : ∀ f ∈ led.fades, f.targetDuty.toNat < 2 ^ kLedcResolution) :
    Refines (led.startFades (level c.red) (level c.green) (level c.blue) fadeTime) m := by
  obtain ⟨dr, dg, db⟩ :=
    duties_startFades led (level c.red) (level c.green) (level c.blue) fadeTime hc
  refine ⟨hc, hr, hg, hb, hm, ?_, ?_, ?_, ?_⟩
  · rw [hs]; exact dr
  · rw [hs]; exact dg
  · rw [hs]; exact db
  · intro f hf
    rcases List.mem_append.mp hf with hf | hf
    · exact hl f hf
    · simp only [List.mem_cons, List.not_mem_nil, or_false] at hf
      rcases hf with rfl | rfl | rfl <;> exact level_bounded _

theorem setColor_refines {led : LEDResource} {m : LedModel} (h : Refines led m)
    (red green blue : UInt8) :
    Refines (led.setColor red green blue) (m.step (.setColor red green blue)) := by
  unfold LEDResource.setColor
  dsimp only
  have hm := h.mode
  cases hu : m.mode with
  | showStatus =>
    rw [if_pos (by rw [hm, hu]; decide)]
    have hs : (m.step (.setColor red green blue)).shown = m.shown := by
      simp [LedModel.step, LedModel.shown, hu]
    refine ⟨h.channels, rfl, rfl, rfl, hm, ?_, ?_, ?_, h.bounded⟩
    · rw [hs]; exact h.dutyRed
    · rw [hs]; exact h.dutyGreen
    · rw [hs]; exact h.dutyBlue
  | user =>
    rw [if_neg (by rw [hm, hu]; decide)]
    have hs : (m.step (.setColor red green blue)).shown = ⟨red, green, blue⟩ := by
      simp [LedModel.step, LedModel.shown, hu]
    exact startFades_refines (c := ⟨red, green, blue⟩) h.channels rfl rfl rfl hm hs h.bounded

theorem setMode_refines {led : LEDResource} {m : LedModel} (h : Refines led m) (mode : Mode) :
    Refines (led.setMode mode) (m.step (.setMode mode)) := by
  have hm := h.mode
  by_cases he : led.mode = mode
  · have hs : m.step (.setMode mode) = m := by simp [LedModel.step, ← hm, he]
    have hl : led.setMode mode = led := he ▸ setMode_self led
    rw [hs, hl]
    exact h
  · have hs : m.step (.setMode mode) = { m with mode := mode, status := black } := by
      simp [LedModel.step, ← hm, he]
    rw [hs]
    unfold LEDResource.setMode
    rw [if_neg he]
    dsimp only
    cases mode with
    | showStatus =>
      rw [if_pos rfl]
      exact startFades_refines (c := black) h.channels h.red h.green h.blue rfl rfl h.bounded
    | user =>
      rw [if_neg (by decide), if_pos rfl]
      let switched : LEDResource := { led with mode := .user }
      have hf : Refines (switched.startFades (level m.color.red) (level m.color.green)
          (level m.color.blue) kFadeTime) { m with mode := .user, status := black } :=
        startFades_refines h.channels h.red h.green h.blue rfl rfl h.bounded
      rwa [← h.red, ← h.green, ← h.blue] at hf

theorem setStatusColor_refines {led : LEDResource} {m : LedModel} (h : Refines led m)
    (red green blue : UInt8) (fadeTime : ℤ) :
    Refines (led.setStatusColor red green blue fadeTime)
      (m.step (.setStatusColor red green blue fadeTime)) := by
  have hm := h.mode
  cases hu : m.mode with
  | user =>
    have hs : m.step (.setStatusColor red green blue fadeTime) = m := by
      simp [LedModel.step, hu]
    rw [hs, setStatusColor_user _ _ _ _ _ (hm.trans hu)]
    exact h
  | showStatus =>
    have hs : m.step (.setStatusColor red green blue fadeTime) =
        { m with status := ⟨red, green, blue⟩ } := by simp [LedModel.step, hu]
    have hshown : ({ m with status := ⟨red, green, blue⟩ } : LedModel).shown =
        ⟨red, green, blue⟩ := by simp [LedModel.shown, hu]
    rw [hs]
    unfold LEDResource.setStatusColor
    rw [if_neg (by rw [hm, hu]; decide)]
    exact startFades_refines (c := ⟨red, green, blue⟩) h.channels h.red h.green h.blue hm hshown
      h.bounded

theorem apply_refines {led : LEDResource} {m : LedModel} (h : Refines led m) (call : LedCall) :
    Refines (call.apply led) (m.step call) := by
  cases call with
  | setColor red green blue => exact setColor_refines h red green blue
  | setMode mode => exact setMode_refines h mode
  | setStatusColor red green blue fadeTime => exact setStatusColor_refines h red green blue fadeTime

theorem run_refines (calls : List LedCall) : Refines (run calls) (LedModel.run calls) :=
  List.foldl_rel refines_start (fun call _ _ _ h => apply_refines h call)

def LedCall.color? : LedCall → Option Rgb
  | setColor red green blue => some ⟨red, green, blue⟩
  | _ => none

def LedCall.mode? : LedCall → Option Mode
  | setMode mode => some mode
  | _ => none

def LedCall.status? : LedCall → Option Rgb
  | setStatusColor red green blue _ => some ⟨red, green, blue⟩
  | _ => none

def lastColor (calls : List LedCall) : Rgb := latest LedCall.color? black calls

def lastMode (calls : List LedCall) : Mode := latest LedCall.mode? .showStatus calls

def entersStatus (past : List LedCall) (call : LedCall) : Bool :=
  decide (lastMode past = .user ∧ call = .setMode .showStatus)

def lastStatus (calls : List LedCall) : Rgb :=
  latest LedCall.status? black (since entersStatus calls)

theorem model_run_snoc (calls : List LedCall) (call : LedCall) :
    LedModel.run (calls ++ [call]) = (LedModel.run calls).step call := by
  simp [LedModel.run]

theorem run_append (calls later : List LedCall) :
    run (calls ++ later) = later.foldl LedCall.apply (run calls) := by
  simp [run]

theorem model_color (calls : List LedCall) : (LedModel.run calls).color = lastColor calls := by
  induction calls using List.reverseRecOn with
  | nil => rfl
  | append_singleton calls call ih =>
    rw [model_run_snoc, lastColor, latest_snoc]
    change _ = (call.color?).getD (lastColor calls)
    rw [← ih]
    cases call with
    | setColor red green blue => rfl
    | setMode mode => simp only [LedModel.step, LedCall.color?]; split_ifs <;> rfl
    | setStatusColor red green blue fadeTime =>
      simp only [LedModel.step, LedCall.color?]; split <;> rfl

theorem model_mode (calls : List LedCall) : (LedModel.run calls).mode = lastMode calls := by
  induction calls using List.reverseRecOn with
  | nil => rfl
  | append_singleton calls call ih =>
    rw [model_run_snoc, lastMode, latest_snoc]
    change _ = (call.mode?).getD (lastMode calls)
    rw [← ih]
    cases call with
    | setColor red green blue => rfl
    | setMode mode =>
      simp only [LedModel.step, LedCall.mode?, Option.getD_some]
      split_ifs with h
      · exact h
      · rfl
    | setStatusColor red green blue fadeTime =>
      simp only [LedModel.step, LedCall.mode?]; split <;> rfl

theorem model_status (calls : List LedCall) (h : (LedModel.run calls).mode = .showStatus) :
    (LedModel.run calls).status = lastStatus calls := by
  induction calls using List.reverseRecOn with
  | nil => rfl
  | append_singleton calls call ih =>
    rw [lastStatus, since_snoc]
    rw [model_run_snoc] at h ⊢
    have hm := model_mode calls
    cases call with
    | setColor red green blue =>
      have hn : ¬ entersStatus calls (.setColor red green blue) = true := by simp [entersStatus]
      rw [if_neg hn, latest_snoc]
      exact ih h
    | setMode mode =>
      simp only [LedModel.step] at h ⊢
      split_ifs at h ⊢ with he hr
      · simp [entersStatus, ← hm, h] at hr
      · rw [latest_snoc]
        exact ih h
      · rfl
      · rename_i hr
        have hu : lastMode calls = .user := by
          rw [← hm]
          cases hx : (LedModel.run calls).mode with
          | user => rfl
          | showStatus => exact absurd (hx.trans h.symm) he
        exact absurd (by simp [entersStatus, hu, show mode = .showStatus from h]) hr
    | setStatusColor red green blue fadeTime =>
      have hn : ¬ entersStatus calls (.setStatusColor red green blue fadeTime) = true := by
        simp [entersStatus]
      rw [if_neg hn, latest_snoc]
      cases hx : (LedModel.run calls).mode with
      | showStatus => simp [LedModel.step, hx, LedCall.status?]
      | user => simp [LedModel.step, hx] at h

def Shows (led : LEDResource) (c : Rgb) : Prop :=
  (led.duty led.ledcRedChannel).toNat = 4 * c.red.toNat ∧
    (led.duty led.ledcGreenChannel).toNat = 4 * c.green.toNat ∧
    (led.duty led.ledcBlueChannel).toNat = 4 * c.blue.toNat

theorem Refines.shows {led : LEDResource} {m : LedModel} (h : Refines led m) :
    Shows led m.shown := by
  refine ⟨?_, ?_, ?_⟩
  · rw [h.dutyRed]; exact shiftLeft_two_toNat _
  · rw [h.dutyGreen]; exact shiftLeft_two_toNat _
  · rw [h.dutyBlue]; exact shiftLeft_two_toNat _

theorem Refines.getColor {led : LEDResource} {m : LedModel} (h : Refines led m) :
    led.getColor = m.color := by
  unfold LEDResource.getColor
  rw [h.red, h.green, h.blue]
  simp only [level, shift_roundtrip]

theorem led_refines_history (calls : List LedCall) :
    (run calls).getColor = lastColor calls ∧
    (run calls).getMode = lastMode calls ∧
    ((run calls).getMode = .user → Shows (run calls) (run calls).getColor) ∧
    ((run calls).getMode = .showStatus → Shows (run calls) (lastStatus calls)) ∧
    (∀ red green blue fadeTime later, (run calls).getMode = .user →
      run (calls ++ .setStatusColor red green blue fadeTime :: later) = run (calls ++ later)) ∧
    run (calls ++ [.setMode (run calls).getMode]) = run calls ∧
    ∀ f ∈ (run calls).fades, f.targetDuty.toNat < 2 ^ kLedcResolution := by
  have h := run_refines calls
  have hmode : (run calls).getMode = (LedModel.run calls).mode := h.mode
  have hshown := h.shows
  refine ⟨h.getColor.trans (model_color calls), hmode.trans (model_mode calls), ?_, ?_, ?_, ?_,
    h.bounded⟩
  · intro hu
    rw [hmode] at hu
    rw [h.getColor]
    simpa only [LedModel.shown, hu] using hshown
  · intro hs
    rw [hmode] at hs
    rw [← model_status calls hs]
    simpa only [LedModel.shown, hs] using hshown
  · intro red green blue fadeTime later hu
    rw [run_append, run_append, List.foldl_cons]
    congr 1
    exact setStatusColor_user _ _ _ _ _ hu
  · rw [run_append]
    exact setMode_self _

end IoTNode.LedRefinement
