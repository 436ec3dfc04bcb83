import IoTNode.Foundations.Histories
import Mathlib.Data.Int.Notation
import Mathlib.Tactic.SplitIfs

set_option autoImplicit false

namespace IoTNode

open Foundations

/-! The enumerations of the driver, which a configuration that nobody wrote fills with any value. -/

abbrev LedcChannel := UInt32

def LedcChannel.channel0 : LedcChannel := 0
def LedcChannel.channel1 : LedcChannel := 1
def LedcChannel.channel2 : LedcChannel := 2

abbrev LedcMode := UInt32

def LedcMode.highSpeed : LedcMode := 0

structure LedcChannelConfig where
  speedMode : LedcMode
  channel : LedcChannel
  duty : UInt32
deriving DecidableEq, Repr

structure LedcFade where
  speedMode : LedcMode
  channel : LedcChannel
  targetDuty : UInt32
  fadeTime : ℤ
deriving DecidableEq, Repr

def kLedcResolution : ℕ := 10

def kFadeTime : ℤ := 200

inductive Mode
  | showStatus
  | user
deriving DecidableEq, Repr

structure Rgb where
  red : UInt8
  green : UInt8
  blue : UInt8
deriving DecidableEq, Repr

structure LEDResource where
  redValue : UInt32 := 0
  greenValue : UInt32 := 0
  blueValue : UInt32 := 0
  mode : Mode := .showStatus
  ledcRedChannel : LedcChannelConfig := ⟨.highSpeed, .channel0, 0⟩
  ledcGreenChannel : LedcChannelConfig := ⟨.highSpeed, .channel1, 0⟩
  ledcBlueChannel : LedcChannelConfig := ⟨.highSpeed, .channel2, 0⟩
  -- ghost: the calls of `ledc_set_fade_time_and_start` so far, in order
  fades : List LedcFade := []
deriving DecidableEq, Repr

namespace LEDResource

def fade (config : LedcChannelConfig) (duty : UInt32) (fadeTime : ℤ) : LedcFade :=
  ⟨config.speedMode, config.channel, duty, fadeTime⟩

def startFades (led : LEDResource) (red green blue : UInt32) (fadeTime : ℤ) : LEDResource :=
  { led with
    fades := led.fades ++
      [fade led.ledcRedChannel red fadeTime,
       fade led.ledcGreenChannel green fadeTime,
       fade led.ledcBlueChannel blue fadeTime] }

def setStatusColor (led : LEDResource) (red green blue : UInt8) (fadeTime : ℤ) : LEDResource :=
  if led.mode ≠ .showStatus then led
  else led.startFades (red.toUInt32 <<< 2) (green.toUInt32 <<< 2) (blue.toUInt32 <<< 2) fadeTime

def setMode (led : LEDResource) (mode : Mode) : LEDResource :=
  if led.mode = mode then led
  else
    let led := { led with mode := mode }
    if led.mode = .showStatus then led.startFades 0 0 0 kFadeTime
    else if mode = .user then
      led.startFades led.redValue led.greenValue led.blueValue kFadeTime
    else led

def getMode (led : LEDResource) : Mode := led.mode

def setColor (led : LEDResource) (red green blue : UInt8) : LEDResource :=
  let led := { led with
    redValue := red.toUInt32 <<< 2
    greenValue := green.toUInt32 <<< 2
    blueValue := blue.toUInt32 <<< 2 }
  if led.mode ≠ .user then led
  else led.startFades led.redValue led.greenValue led.blueValue kFadeTime

def getColor (led : LEDResource) : Rgb :=
  ⟨(led.redValue >>> 2).toUInt8, (led.greenValue >>> 2).toUInt8, (led.blueValue >>> 2).toUInt8⟩

def SameOutput (c d : LedcChannelConfig) : Prop := c.speedMode = d.speedMode ∧ c.channel = d.channel

instance (c d : LedcChannelConfig) : Decidable (SameOutput c d) :=
  inferInstanceAs (Decidable (c.speedMode = d.speedMode ∧ c.channel = d.channel))

def ChannelsDistinct (led : LEDResource) : Prop :=
  ¬ SameOutput led.ledcRedChannel led.ledcGreenChannel ∧
    ¬ SameOutput led.ledcRedChannel led.ledcBlueChannel ∧
    ¬ SameOutput led.ledcGreenChannel led.ledcBlueChannel

def commands (config : LedcChannelConfig) (f : LedcFade) : Option UInt32 :=
  if f.speedMode = config.speedMode ∧ f.channel = config.channel then some f.targetDuty else none

def duty (led : LEDResource) (config : LedcChannelConfig) : UInt32 :=
  latest (commands config) config.duty led.fades

theorem commands_fade (c d : LedcChannelConfig) (v : UInt32) (t : ℤ) :
    commands c (fade d v t) = if SameOutput d c then some v else none := rfl

theorem SameOutput.symm {c d : LedcChannelConfig} (h : SameOutput c d) : SameOutput d c :=
  ⟨h.1.symm, h.2.symm⟩

theorem sameOutput_self (c : LedcChannelConfig) : SameOutput c c := ⟨rfl, rfl⟩

section Fades

variable (led : LEDResource) (red green blue : UInt32) (fadeTime : ℤ)

theorem duty_startFades (c : LedcChannelConfig) :
    (led.startFades red green blue fadeTime).duty c =
      if SameOutput led.ledcBlueChannel c then blue
      else if SameOutput led.ledcGreenChannel c then green
      else if SameOutput led.ledcRedChannel c then red
      else led.duty c := by
  unfold duty startFades
  rw [latest_append]
  simp only [latest, List.reverse_cons, List.reverse_nil, List.nil_append, List.cons_append,
    List.findSome?_cons, List.findSome?_nil, commands_fade]
  split_ifs <;> rfl

theorem duties_startFades (h : led.ChannelsDistinct) :
    (led.startFades red green blue fadeTime).duty led.ledcRedChannel = red ∧
    (led.startFades red green blue fadeTime).duty led.ledcGreenChannel = green ∧
    (led.startFades red green blue fadeTime).duty led.ledcBlueChannel = blue := by
  obtain ⟨hrg, hrb, hgb⟩ := h
  have hgr : ¬ SameOutput led.ledcGreenChannel led.ledcRedChannel := fun hs => hrg hs.symm
  have hbr : ¬ SameOutput led.ledcBlueChannel led.ledcRedChannel := fun hs => hrb hs.symm
  have hbg : ¬ SameOutput led.ledcBlueChannel led.ledcGreenChannel := fun hs => hgb hs.symm
  simp only [duty_startFades, hgr, hbr, hbg, sameOutput_self, if_true, if_false, and_self]

end Fades

section Fields

variable (led : LEDResource)

theorem setStatusColor_user (red green blue : UInt8) (fadeTime : ℤ) (h : led.mode = .user) :
    led.setStatusColor red green blue fadeTime = led := by
  unfold setStatusColor
  rw [if_pos (by rw [h]; decide)]

theorem setMode_self : led.setMode led.mode = led := by
  unfold setMode
  rw [if_pos rfl]

@[simp] theorem setStatusColor_mode (red green blue : UInt8) (fadeTime : ℤ) :
    (led.setStatusColor red green blue fadeTime).mode = led.mode := by
  unfold setStatusColor
  split_ifs <;> rfl

@[simp] theorem setMode_mode (mode : Mode) : (led.setMode mode).mode = mode := by
  unfold setMode
  dsimp only
  split_ifs with h <;> first | exact h | rfl

@[simp] theorem setColor_mode (red green blue : UInt8) :
    (led.setColor red green blue).mode = led.mode := by
  unfold setColor
  dsimp only
  split_ifs <;> rfl

@[simp] theorem setStatusColor_getColor (red green blue : UInt8) (fadeTime : ℤ) :
    (led.setStatusColor red green blue fadeTime).getColor = led.getColor := by
  unfold setStatusColor
  split_ifs <;> rfl

@[simp] theorem setMode_getColor (mode : Mode) : (led.setMode mode).getColor = led.getColor := by
  unfold setMode
  dsimp only
  split_ifs <;> rfl

end Fields

theorem shiftLeft_two_toNat (c : UInt8) : (c.toUInt32 <<< 2).toNat = 4 * c.toNat := by
  have hc := c.toNat_lt
  rw [UInt32.toNat_shiftLeft, UInt8.toNat_toUInt32, Nat.shiftLeft_eq]
  change c.toNat * 4 % 4294967296 = _
  omega

theorem shift_roundtrip (c : UInt8) : ((c.toUInt32 <<< 2) >>> 2).toUInt8 = c := by
  apply UInt8.toNat_inj.mp
  have hc := c.toNat_lt
  rw [UInt32.toNat_toUInt8, UInt32.toNat_shiftRight, shiftLeft_two_toNat, Nat.shiftRight_eq_div_pow]
  change 4 * c.toNat / 4 % 256 = _
  omega

@[simp] theorem setColor_getColor (led : LEDResource) (red green blue : UInt8) :
    (led.setColor red green blue).getColor = ⟨red, green, blue⟩ := by
  unfold setColor
  dsimp only
  split_ifs <;> simp only [getColor, startFades, shift_roundtrip]

end LEDResource

end IoTNode
