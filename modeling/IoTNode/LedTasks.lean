import IoTNode.Foundations.Systems
import IoTNode.LedRefinement
import Mathlib.Data.List.Induction
import Mathlib.Tactic.ByContra

set_option autoImplicit false

namespace IoTNode

open Foundations LEDResource LedRefinement

inductive Primary
  | red
  | green
  | blue
deriving DecidableEq, Repr

namespace Primary

def config (led : LEDResource) : Primary → LedcChannelConfig
  | red => led.ledcRedChannel
  | green => led.ledcGreenChannel
  | blue => led.ledcBlueChannel

def value (led : LEDResource) : Primary → UInt32
  | red => led.redValue
  | green => led.greenValue
  | blue => led.blueValue

def component (c : Rgb) : Primary → UInt8
  | red => c.red
  | green => c.green
  | blue => c.blue

def rank : Primary → ℕ
  | red => 0
  | green => 1
  | blue => 2

end Primary

/-- What the three fades of a call set: values of the call, or the fields as they are found. -/
inductive Duties
  | given (red green blue : UInt32)
  | values
deriving DecidableEq, Repr

def Duties.duty (led : LEDResource) : Duties → Primary → UInt32
  | given red _ _, .red => red
  | given _ green _, .green => green
  | given _ _ blue, .blue => blue
  | values, color => color.value led

/-- Where a task stands in `SetStatusColor`, `SetMode` or `SetColor`: each condition, each
assignment, the arguments of each fade and the fade itself are steps of their own. -/
inductive LedPoint
  | outside
  | statusCheck (red green blue : UInt8) (fadeTime : ℤ)
  | modeCheck (mode : Mode)
  | modeWrite (mode : Mode)
  | modeFades (mode : Mode)
  | redWrite (red green blue : UInt8)
  | greenWrite (green blue : UInt8)
  | blueWrite (blue : UInt8)
  | userCheck
  | arguments (duties : Duties) (fadeTime : ℤ) (color : Primary)
  | fade (duties : Duties) (fadeTime : ℤ) (color : Primary) (duty : UInt32)
deriving DecidableEq, Repr

namespace LedPoint

def enter : LedCall → LedPoint
  | .setColor red green blue => .redWrite red green blue
  | .setMode mode => .modeCheck mode
  | .setStatusColor red green blue fadeTime => .statusCheck red green blue fadeTime

def afterFade (duties : Duties) (fadeTime : ℤ) : Primary → LedPoint
  | .red => .arguments duties fadeTime .green
  | .green => .arguments duties fadeTime .blue
  | .blue => .outside

end LedPoint

def LEDResource.startFade (led : LEDResource) (color : Primary) (duty : UInt32) (fadeTime : ℤ) :
    LEDResource :=
  { led with fades := led.fades ++ [LEDResource.fade (color.config led) duty fadeTime] }

def LEDResource.advance (led : LEDResource) : LedPoint → Option (LEDResource × LedPoint)
  | .outside => none
  | .statusCheck red green blue fadeTime =>
    if led.mode ≠ .showStatus then some (led, .outside)
    else some (led, .arguments
      (.given (red.toUInt32 <<< 2) (green.toUInt32 <<< 2) (blue.toUInt32 <<< 2)) fadeTime .red)
  | .modeCheck mode =>
    if led.mode = mode then some (led, .outside) else some (led, .modeWrite mode)
  | .modeWrite mode => some ({ led with mode := mode }, .modeFades mode)
  | .modeFades mode =>
    if led.mode = .showStatus then some (led, .arguments (.given 0 0 0) kFadeTime .red)
    else if mode = .user then some (led, .arguments .values kFadeTime .red)
    else some (led, .outside)
  | .redWrite red green blue =>
    some ({ led with redValue := red.toUInt32 <<< 2 }, .greenWrite green blue)
  | .greenWrite green blue =>
    some ({ led with greenValue := green.toUInt32 <<< 2 }, .blueWrite blue)
  | .blueWrite blue => some ({ led with blueValue := blue.toUInt32 <<< 2 }, .userCheck)
  | .userCheck =>
    if led.mode ≠ .user then some (led, .outside)
    else some (led, .arguments .values kFadeTime .red)
  | .arguments duties fadeTime color =>
    some (led, .fade duties fadeTime color (duties.duty led color))
  | .fade duties fadeTime color duty =>
    some (led.startFade color duty fadeTime, .afterFade duties fadeTime color)

inductive LedTask
  | main
  | coap
deriving DecidableEq, Repr

/-- `TaskHandle` calls `SetStatusColor` and `SetMode`, `HandleRequest` `SetColor` and `SetMode`. -/
def LedTask.makes : LedTask → LedCall → Bool
  | main, .setColor _ _ _ => false
  | coap, .setStatusColor _ _ _ _ => false
  | _, _ => true

/-- The resource between the main task and the CoAP task, which share it without a lock. Its fields
are words, read and written whole. -/
structure LedTasks where
  led : LEDResource := {}
  main : LedPoint := .outside
  coap : LedPoint := .outside
deriving DecidableEq, Repr

inductive LedAction
  | call (task : LedTask) (call : LedCall)
  | step (task : LedTask)
deriving DecidableEq, Repr

namespace LedTasks

def point (s : LedTasks) : LedTask → LedPoint
  | .main => s.main
  | .coap => s.coap

def other (s : LedTasks) : LedTask → LedPoint
  | .main => s.coap
  | .coap => s.main

def moved (s : LedTasks) (led : LEDResource) (point : LedPoint) : LedTask → LedTasks
  | .main => { s with led := led, main := point }
  | .coap => { s with led := led, coap := point }

def step (s : LedTasks) : LedAction → Option LedTasks
  | .call task call =>
    match s.point task with
    | .outside => if task.makes call then some (s.moved s.led (.enter call) task) else none
    | _ => none
  | .step task => (s.led.advance (s.point task)).map (fun (led, point) => s.moved led point task)

def system : System LedTasks LedAction where
  init s := s = {}
  step := step

end LedTasks

namespace LedPoint

/-- Inside fades of a colour that is not the user's. -/
def Given : LedPoint → Prop
  | .arguments (.given _ _ _) _ _ => True
  | .fade (.given _ _ _) _ _ _ => True
  | _ => False

def Holds (p : LedPoint) (color : Primary) (duty : UInt32) : Prop :=
  ∃ fadeTime, p = .fade .values fadeTime color duty

/-- In mode user, the task is going to fade this channel to the value of its field. -/
def Covers (color : Primary) : LedPoint → Prop
  | .modeFades .user => True
  | .redWrite _ _ _ => True
  | .greenWrite _ _ => True
  | .blueWrite _ => True
  | .userCheck => True
  | .arguments .values _ current => current.rank ≤ color.rank
  | .fade .values _ current _ => current.rank ≤ color.rank
  | _ => False

/-- A task at `p` overtakes one at `q`: it makes the mode user while the other is inside other
fades, or changes a field that the other has read and not used yet. -/
def Overtakes : LedPoint → LedPoint → Prop
  | .modeWrite .user, q => q.Given
  | .redWrite red _ _, q => ∃ duty, q.Holds .red duty ∧ duty ≠ level red
  | .greenWrite green _, q => ∃ duty, q.Holds .green duty ∧ duty ≠ level green
  | .blueWrite blue, q => ∃ duty, q.Holds .blue duty ∧ duty ≠ level blue
  | _, _ => False

end LedPoint

def LEDResource.Lights (led : LEDResource) (color : Primary) : Prop :=
  led.duty (color.config led) = color.value led

structure LEDResource.Agrees (led : LEDResource) (p q : LedPoint) : Prop where
  channels : led.ChannelsDistinct
  current : ∀ color duty, p.Holds color duty → duty = color.value led
  otherCurrent : ∀ color duty, q.Holds color duty → duty = color.value led
  user : led.mode = .user → ¬ p.Given ∧ ¬ q.Given
  lights : led.mode = .user → ∀ color, led.Lights color ∨ p.Covers color ∨ q.Covers color

section Agreement

variable {led led' : LEDResource} {p p' q : LedPoint}

theorem LEDResource.Agrees.symm (h : led.Agrees p q) : led.Agrees q p := by
  refine ⟨h.channels, h.otherCurrent, h.current, ?_, ?_⟩
  · intro hu
    exact (h.user hu).symm
  · intro hu color
    exact (h.lights hu color).imp_right Or.symm

theorem startFade_duty (led : LEDResource) (color : Primary) (duty : UInt32) (fadeTime : ℤ)
    (config : LedcChannelConfig) :
    (led.startFade color duty fadeTime).duty config =
      if SameOutput (color.config led) config then duty else led.duty config := by
  unfold LEDResource.startFade LEDResource.duty
  rw [latest_snoc, commands_fade]
  split_ifs <;> rfl

theorem sameOutput_iff (h : led.ChannelsDistinct) {color other : Primary} :
    SameOutput (color.config led) (other.config led) ↔ color = other := by
  obtain ⟨hrg, hrb, hgb⟩ := h
  constructor
  · intro hs
    cases color <;> cases other <;>
      first | rfl | exact absurd hs (by assumption) | exact absurd hs.symm (by assumption)
  · rintro rfl
    exact sameOutput_self _

theorem LEDResource.Agrees.move (h : led.Agrees p q)
    (hp : ∀ color duty, p'.Holds color duty → duty = color.value led)
    (hg : led.mode = .user → ¬ p'.Given)
    (hc : led.mode = .user → ∀ color, p.Covers color → p'.Covers color) : led.Agrees p' q := by
  refine ⟨h.channels, hp, h.otherCurrent, fun hu => ⟨hg hu, (h.user hu).2⟩, ?_⟩
  intro hu color
  rcases h.lights hu color with hl | hl | hl
  · exact Or.inl hl
  · exact Or.inr (Or.inl (hc hu color hl))
  · exact Or.inr (Or.inr hl)

theorem LEDResource.Agrees.covered (hc : led.ChannelsDistinct)
    (hp : ∀ color duty, ¬ p.Holds color duty)
    (hq : ∀ color duty, q.Holds color duty → duty = color.value led)
    (hu : led.mode = .user → ¬ p.Given ∧ ¬ q.Given ∧ ∀ color, p.Covers color) :
    led.Agrees p q := by
  refine ⟨hc, fun color duty h => absurd h (hp color duty), hq, ?_, ?_⟩
  · intro huser
    exact ⟨(hu huser).1, (hu huser).2.1⟩
  · intro huser color
    exact Or.inr (Or.inl ((hu huser).2.2 color))

theorem covers_first (fadeTime : ℤ) (color : Primary) :
    (LedPoint.arguments .values fadeTime .red).Covers color := Nat.zero_le color.rank

theorem covers_afterFade {fadeTime : ℤ} {color current : Primary} {duty : UInt32}
    (h : (LedPoint.fade .values fadeTime current duty).Covers color) (hne : current ≠ color) :
    (LedPoint.afterFade .values fadeTime current).Covers color := by
  have hrank : current.rank ≤ color.rank := h
  cases current with
  | red =>
    cases color with
    | red => exact absurd rfl hne
    | green => exact Nat.le_refl 1
    | blue => exact Nat.le_succ 1
  | green =>
    cases color with
    | red => exact absurd hrank (by decide)
    | green => exact absurd rfl hne
    | blue => exact Nat.le_refl 2
  | blue =>
    cases color with
    | red => exact absurd hrank (by decide)
    | green => exact absurd hrank (by decide)
    | blue => exact absurd rfl hne

theorem LEDResource.Agrees.fade {duties : Duties} {fadeTime : ℤ} {current : Primary}
    {duty : UInt32} (h : led.Agrees (.fade duties fadeTime current duty) q) :
    (led.startFade current duty fadeTime).Agrees (.afterFade duties fadeTime current) q := by
  refine ⟨h.channels, ?_, h.otherCurrent, ?_, ?_⟩
  · rintro color duty ⟨time, hp⟩
    cases current <;> cases hp
  · intro hu
    refine ⟨?_, (h.user hu).2⟩
    cases duties with
    | given red green blue => exact absurd trivial (h.user hu).1
    | values => cases current <;> exact id
  · intro hu color
    cases duties with
    | given red green blue => exact absurd trivial (h.user hu).1
    | values =>
      have hduty : duty = current.value led := h.current current duty ⟨fadeTime, rfl⟩
      unfold LEDResource.Lights
      rw [startFade_duty]
      change (if SameOutput (current.config led) (color.config led) then duty
        else led.duty (color.config led)) = color.value led ∨ _
      by_cases hsame : current = color
      · subst hsame
        rw [if_pos (sameOutput_self _)]
        exact Or.inl hduty
      · rw [if_neg (mt (sameOutput_iff h.channels).mp hsame)]
        rcases h.lights hu color with hl | hl | hl
        · exact Or.inl hl
        · exact Or.inr (Or.inl (covers_afterFade hl hsame))
        · exact Or.inr (Or.inr hl)

theorem LEDResource.Agrees.writeMode {mode : Mode} (h : led.Agrees (.modeWrite mode) q)
    (ho : ¬ (LedPoint.modeWrite mode).Overtakes q) :
    ({ led with mode := mode } : LEDResource).Agrees (.modeFades mode) q := by
  apply LEDResource.Agrees.covered
  · exact h.channels
  · rintro color duty ⟨fadeTime, hp⟩
    cases hp
  · exact h.otherCurrent
  · intro hu
    have hu : mode = .user := hu
    subst hu
    exact ⟨id, ho, fun _ => trivial⟩

theorem LEDResource.Agrees.modeFades {mode : Mode} (h : led.Agrees (.modeFades mode) q)
    (ha : led.advance (.modeFades mode) = some (led', p')) : led'.Agrees p' q := by
  simp only [LEDResource.advance] at ha
  split_ifs at ha with hs hm
  · obtain ⟨rfl, rfl⟩ := Prod.mk.inj (Option.some.inj ha)
    apply LEDResource.Agrees.covered h.channels _ h.otherCurrent
    · intro hu
      rw [hs] at hu
      cases hu
    · rintro color duty ⟨fadeTime, hp⟩
      cases hp
  · obtain ⟨rfl, rfl⟩ := Prod.mk.inj (Option.some.inj ha)
    apply LEDResource.Agrees.covered h.channels _ h.otherCurrent
    · intro hu
      exact ⟨id, (h.user hu).2, covers_first kFadeTime⟩
    · rintro color duty ⟨fadeTime, hp⟩
      cases hp
  · obtain ⟨rfl, rfl⟩ := Prod.mk.inj (Option.some.inj ha)
    cases mode with
    | user => exact absurd rfl hm
    | showStatus =>
      apply h.move
      · rintro color duty ⟨fadeTime, hp⟩
        cases hp
      · exact fun _ => id
      · exact fun _ _ => id

theorem LEDResource.Agrees.writeColor {color : Primary} {value : UInt32} (h : led.Agrees p q)
    (hc : led'.ChannelsDistinct) (hm : led'.mode = led.mode)
    (hv : ∀ other : Primary, other.value led' = if other = color then value else other.value led)
    (ho : ¬ ∃ duty, q.Holds color duty ∧ duty ≠ value)
    (hp : ∀ color, p'.Covers color ∧ (∀ duty, ¬ p'.Holds color duty) ∧ ¬ p'.Given) :
    led'.Agrees p' q := by
  apply LEDResource.Agrees.covered hc (fun color => (hp color).2.1)
  · intro other duty hq
    rw [hv other]
    by_cases hother : other = color
    · subst hother
      rw [if_pos rfl]
      by_contra hne
      exact ho ⟨duty, hq, hne⟩
    · rw [if_neg hother]
      exact h.otherCurrent other duty hq
  · intro hu
    rw [hm] at hu
    exact ⟨(hp color).2.2, (h.user hu).2, fun color => (hp color).1⟩

theorem LEDResource.Agrees.advance (h : led.Agrees p q) (ho : ¬ p.Overtakes q)
    (ha : led.advance p = some (led', p')) : led'.Agrees p' q := by
  cases p with
  | outside => cases ha
  | statusCheck red green blue fadeTime =>
    simp only [LEDResource.advance] at ha
    split_ifs at ha with hs
    · obtain ⟨rfl, rfl⟩ := Prod.mk.inj (Option.some.inj ha)
      apply h.move
      · rintro color duty ⟨time, hp⟩
        cases hp
      · exact fun _ => id
      · exact fun _ _ => id
    · obtain ⟨rfl, rfl⟩ := Prod.mk.inj (Option.some.inj ha)
      apply LEDResource.Agrees.covered h.channels _ h.otherCurrent
      · intro hu
        rw [not_not.mp hs] at hu
        cases hu
      · rintro color duty ⟨time, hp⟩
        cases hp
  | modeCheck mode =>
    simp only [LEDResource.advance] at ha
    split_ifs at ha with hs <;>
    · obtain ⟨rfl, rfl⟩ := Prod.mk.inj (Option.some.inj ha)
      apply h.move
      · rintro color duty ⟨time, hp⟩
        cases hp
      · exact fun _ => id
      · exact fun _ _ => id
  | modeWrite mode =>
    obtain ⟨rfl, rfl⟩ := Prod.mk.inj (Option.some.inj ha)
    exact h.writeMode ho
  | modeFades mode => exact h.modeFades ha
  | redWrite red green blue =>
    obtain ⟨rfl, rfl⟩ := Prod.mk.inj (Option.some.inj ha)
    refine h.writeColor h.channels rfl ?_ ho ?_
    · intro other
      cases other <;> rfl
    · intro color
      exact ⟨trivial, fun duty ⟨_, hp⟩ => (by cases hp), id⟩
  | greenWrite green blue =>
    obtain ⟨rfl, rfl⟩ := Prod.mk.inj (Option.some.inj ha)
    refine h.writeColor h.channels rfl ?_ ho ?_
    · intro other
      cases other <;> rfl
    · intro color
      exact ⟨trivial, fun duty ⟨_, hp⟩ => (by cases hp), id⟩
  | blueWrite blue =>
    obtain ⟨rfl, rfl⟩ := Prod.mk.inj (Option.some.inj ha)
    refine h.writeColor h.channels rfl ?_ ho ?_
    · intro other
      cases other <;> rfl
    · intro color
      exact ⟨trivial, fun duty ⟨_, hp⟩ => (by cases hp), id⟩
  | userCheck =>
    simp only [LEDResource.advance] at ha
    split_ifs at ha with hs
    · obtain ⟨rfl, rfl⟩ := Prod.mk.inj (Option.some.inj ha)
      apply LEDResource.Agrees.covered h.channels _ h.otherCurrent
      · intro hu
        exact absurd hu hs
      · rintro color duty ⟨time, hp⟩
        cases hp
    · obtain ⟨rfl, rfl⟩ := Prod.mk.inj (Option.some.inj ha)
      apply LEDResource.Agrees.covered h.channels _ h.otherCurrent
      · intro hu
        exact ⟨id, (h.user hu).2, covers_first kFadeTime⟩
      · rintro color duty ⟨time, hp⟩
        cases hp
  | arguments duties fadeTime current =>
    obtain ⟨rfl, rfl⟩ := Prod.mk.inj (Option.some.inj ha)
    apply h.move
    · rintro color duty ⟨time, hp⟩
      cases hp
      rfl
    · intro hu
      cases duties with
      | given red green blue => exact (h.user hu).1
      | values => exact id
    · intro _ color hcovers
      cases duties with
      | given red green blue => exact hcovers
      | values => exact hcovers
  | fade duties fadeTime current duty =>
    obtain ⟨rfl, rfl⟩ := Prod.mk.inj (Option.some.inj ha)
    exact h.fade

end Agreement

section Writing

variable {led led' : LEDResource} {p p' : LedPoint} {c : Rgb}

def LedPoint.Writes : LedPoint → Prop
  | .redWrite _ _ _ => True
  | .greenWrite _ _ => True
  | .blueWrite _ => True
  | _ => False

/-- The fields hold `c`, as far as the `SetColor` at this point has written it. -/
def LedPoint.Written (led : LEDResource) (c : Rgb) : LedPoint → Prop
  | .redWrite red green blue => c = ⟨red, green, blue⟩
  | .greenWrite green blue => led.redValue = level c.red ∧ c.green = green ∧ c.blue = blue
  | .blueWrite blue =>
    led.redValue = level c.red ∧ led.greenValue = level c.green ∧ c.blue = blue
  | _ => ∀ color : Primary, color.value led = level (color.component c)

theorem written_iff (h : ¬ p.Writes) :
    p.Written led c ↔ ∀ color : Primary, color.value led = level (color.component c) := by
  cases p with
  | redWrite red green blue => exact absurd trivial h
  | greenWrite green blue => exact absurd trivial h
  | blueWrite blue => exact absurd trivial h
  | _ => exact Iff.rfl

theorem advance_values (h : ¬ p.Writes) (ha : led.advance p = some (led', p')) :
    (∀ color : Primary, color.value led' = color.value led) ∧ ¬ p'.Writes := by
  cases p with
  | outside => cases ha
  | redWrite red green blue => exact absurd trivial h
  | greenWrite green blue => exact absurd trivial h
  | blueWrite blue => exact absurd trivial h
  | modeWrite mode =>
    obtain ⟨rfl, rfl⟩ := Prod.mk.inj (Option.some.inj ha)
    exact ⟨fun color => (by cases color <;> rfl), id⟩
  | arguments duties fadeTime color =>
    obtain ⟨rfl, rfl⟩ := Prod.mk.inj (Option.some.inj ha)
    exact ⟨fun _ => rfl, id⟩
  | fade duties fadeTime color duty =>
    obtain ⟨rfl, rfl⟩ := Prod.mk.inj (Option.some.inj ha)
    exact ⟨fun color => (by cases color <;> rfl), by cases color <;> exact id⟩
  | _ =>
    simp only [LEDResource.advance] at ha
    split_ifs at ha <;>
    · obtain ⟨rfl, rfl⟩ := Prod.mk.inj (Option.some.inj ha)
      exact ⟨fun _ => rfl, id⟩

theorem Written.advance (h : p.Written led c) (ha : led.advance p = some (led', p')) :
    p'.Written led' c := by
  cases p with
  | redWrite red green blue =>
    obtain ⟨rfl, rfl⟩ := Prod.mk.inj (Option.some.inj ha)
    obtain rfl := h
    exact ⟨rfl, rfl, rfl⟩
  | greenWrite green blue =>
    obtain ⟨rfl, rfl⟩ := Prod.mk.inj (Option.some.inj ha)
    obtain ⟨hr, rfl, rfl⟩ := h
    exact ⟨hr, rfl, rfl⟩
  | blueWrite blue =>
    obtain ⟨rfl, rfl⟩ := Prod.mk.inj (Option.some.inj ha)
    obtain ⟨hr, hg, rfl⟩ := h
    intro color
    cases color with
    | red => exact hr
    | green => exact hg
    | blue => rfl
  | _ =>
    obtain ⟨hvalues, hp⟩ := advance_values id ha
    apply (written_iff hp).mpr
    intro color
    rw [hvalues color]
    exact h color

end Writing

section Bounds

variable {led led' : LEDResource} {p p' : LedPoint}

def FitsDuty (duty : UInt32) : Prop := duty.toNat < 2 ^ kLedcResolution

def LedPoint.Fits : LedPoint → Prop
  | .arguments duties _ _ => ∀ red green blue, duties = .given red green blue →
    FitsDuty red ∧ FitsDuty green ∧ FitsDuty blue
  | .fade duties _ _ duty => FitsDuty duty ∧ ∀ red green blue, duties = .given red green blue →
    FitsDuty red ∧ FitsDuty green ∧ FitsDuty blue
  | _ => True

structure LEDResource.Fits (led : LEDResource) : Prop where
  values : ∀ color : Primary, FitsDuty (color.value led)
  fades : ∀ f ∈ led.fades, FitsDuty f.targetDuty

theorem fits_zero : FitsDuty 0 := by
  unfold FitsDuty kLedcResolution
  decide

theorem fits_advance (hl : led.Fits) (hp : p.Fits) (ha : led.advance p = some (led', p')) :
    led'.Fits ∧ p'.Fits := by
  have hvalues : ∀ duties red green blue, duties = Duties.values →
      duties = Duties.given red green blue → FitsDuty red ∧ FitsDuty green ∧ FitsDuty blue := by
    rintro _ red green blue rfl h
    cases h
  cases p with
  | outside => cases ha
  | statusCheck red green blue fadeTime =>
    simp only [LEDResource.advance] at ha
    split_ifs at ha
    · obtain ⟨rfl, rfl⟩ := Prod.mk.inj (Option.some.inj ha)
      exact ⟨hl, trivial⟩
    · obtain ⟨rfl, rfl⟩ := Prod.mk.inj (Option.some.inj ha)
      refine ⟨hl, fun _ _ _ h => ?_⟩
      obtain ⟨rfl, rfl, rfl⟩ := Duties.given.inj h
      exact ⟨level_bounded red, level_bounded green, level_bounded blue⟩
  | modeCheck mode =>
    simp only [LEDResource.advance] at ha
    split_ifs at ha <;>
    · obtain ⟨rfl, rfl⟩ := Prod.mk.inj (Option.some.inj ha)
      exact ⟨hl, trivial⟩
  | modeWrite mode =>
    obtain ⟨rfl, rfl⟩ := Prod.mk.inj (Option.some.inj ha)
    exact ⟨⟨hl.values, hl.fades⟩, trivial⟩
  | modeFades mode =>
    simp only [LEDResource.advance] at ha
    split_ifs at ha
    · obtain ⟨rfl, rfl⟩ := Prod.mk.inj (Option.some.inj ha)
      refine ⟨hl, fun _ _ _ h => ?_⟩
      obtain ⟨rfl, rfl, rfl⟩ := Duties.given.inj h
      exact ⟨fits_zero, fits_zero, fits_zero⟩
    · obtain ⟨rfl, rfl⟩ := Prod.mk.inj (Option.some.inj ha)
      exact ⟨hl, fun _ _ _ => hvalues _ _ _ _ rfl⟩
    · obtain ⟨rfl, rfl⟩ := Prod.mk.inj (Option.some.inj ha)
      exact ⟨hl, trivial⟩
  | redWrite red green blue =>
    obtain ⟨rfl, rfl⟩ := Prod.mk.inj (Option.some.inj ha)
    refine ⟨⟨fun color => ?_, hl.fades⟩, trivial⟩
    cases color with
    | red => exact level_bounded red
    | green => exact hl.values .green
    | blue => exact hl.values .blue
  | greenWrite green blue =>
    obtain ⟨rfl, rfl⟩ := Prod.mk.inj (Option.some.inj ha)
    refine ⟨⟨fun color => ?_, hl.fades⟩, trivial⟩
    cases color with
    | red => exact hl.values .red
    | green => exact level_bounded green
    | blue => exact hl.values .blue
  | blueWrite blue =>
    obtain ⟨rfl, rfl⟩ := Prod.mk.inj (Option.some.inj ha)
    refine ⟨⟨fun color => ?_, hl.fades⟩, trivial⟩
    cases color with
    | red => exact hl.values .red
    | green => exact hl.values .green
    | blue => exact level_bounded blue
  | userCheck =>
    simp only [LEDResource.advance] at ha
    split_ifs at ha
    · obtain ⟨rfl, rfl⟩ := Prod.mk.inj (Option.some.inj ha)
      exact ⟨hl, trivial⟩
    · obtain ⟨rfl, rfl⟩ := Prod.mk.inj (Option.some.inj ha)
      exact ⟨hl, fun _ _ _ => hvalues _ _ _ _ rfl⟩
  | arguments duties fadeTime color =>
    obtain ⟨rfl, rfl⟩ := Prod.mk.inj (Option.some.inj ha)
    refine ⟨hl, ?_, hp⟩
    cases duties with
    | values => exact hl.values color
    | given red green blue =>
      obtain ⟨hr, hg, hb⟩ := hp red green blue rfl
      cases color with
      | red => exact hr
      | green => exact hg
      | blue => exact hb
  | fade duties fadeTime color duty =>
    obtain ⟨rfl, rfl⟩ := Prod.mk.inj (Option.some.inj ha)
    refine ⟨⟨fun other => ?_, fun f hf => ?_⟩, ?_⟩
    · cases other
      · exact hl.values .red
      · exact hl.values .green
      · exact hl.values .blue
    · rcases List.mem_append.mp hf with hf | hf
      · exact hl.fades f hf
      · obtain rfl := List.mem_singleton.mp hf
        exact hp.1
    · cases color with
      | red => exact hp.2
      | green => exact hp.2
      | blue => trivial

end Bounds

namespace LedTasks

def calls (actions : List LedAction) : List LedCall :=
  actions.filterMap (fun | .call _ call => some call | .step _ => none)

def Overtaking (s : LedTasks) : LedAction → Prop
  | .step task => (s.point task).Overtakes (s.other task)
  | .call _ _ => False

theorem calls_snoc (actions : List LedAction) (action : LedAction) :
    calls (actions ++ [action]) = calls actions ++ calls [action] :=
  List.filterMap_append

theorem step_call {s t : LedTasks} {task : LedTask} {call : LedCall}
    (h : step s (.call task call) = some t) :
    s.point task = .outside ∧ task.makes call = true ∧ t = s.moved s.led (.enter call) task := by
  simp only [step] at h
  split at h
  · rename_i hpoint
    obtain ⟨hmakes, ht⟩ := Option.ite_none_right_eq_some.mp h
    exact ⟨hpoint, hmakes, (Option.some.inj ht).symm⟩
  · cases h

theorem step_task {s t : LedTasks} {task : LedTask} (h : step s (.step task) = some t) :
    ∃ led point, s.led.advance (s.point task) = some (led, point) ∧ t = s.moved led point task := by
  obtain ⟨⟨led, point⟩, ha, ht⟩ := Option.map_eq_some_iff.mp h
  exact ⟨led, point, ha, ht.symm⟩

structure Tracks (s : LedTasks) (c : Rgb) : Prop where
  main : ¬ s.main.Writes
  coap : s.coap.Written s.led c

theorem Tracks.step {s t : LedTasks} {action : LedAction} {past : List LedCall}
    (h : Tracks s (lastColor past)) (ht : s.step action = some t) :
    Tracks t (lastColor (past ++ calls [action])) := by
  cases action with
  | call task call =>
    obtain ⟨hpoint, hmakes, rfl⟩ := step_call ht
    have hlast : lastColor (past ++ calls [.call task call]) =
        (call.color?).getD (lastColor past) := latest_snoc LedCall.color? black past call
    rw [hlast]
    cases task with
    | main =>
      cases call with
      | setColor red green blue => cases hmakes
      | setMode mode => exact ⟨id, h.coap⟩
      | setStatusColor red green blue fadeTime => exact ⟨id, h.coap⟩
    | coap =>
      have hpoint : s.coap = .outside := hpoint
      have hwritten := h.coap
      rw [hpoint] at hwritten
      cases call with
      | setColor red green blue => exact ⟨h.main, rfl⟩
      | setMode mode => exact ⟨h.main, hwritten⟩
      | setStatusColor red green blue fadeTime => cases hmakes
  | step task =>
    obtain ⟨led, point, ha, rfl⟩ := step_task ht
    have hlast : past ++ calls [.step task] = past := List.append_nil past
    rw [hlast]
    cases task with
    | main =>
      obtain ⟨hvalues, hwrites⟩ := advance_values h.main ha
      refine ⟨hwrites, ?_⟩
      have hred := hvalues .red
      have hgreen := hvalues .green
      have hcoap := h.coap
      change s.coap.Written led _
      cases hp : s.coap with
      | redWrite red green blue =>
        rw [hp] at hcoap
        exact hcoap
      | greenWrite green blue =>
        rw [hp] at hcoap
        exact ⟨hred.trans hcoap.1, hcoap.2⟩
      | blueWrite blue =>
        rw [hp] at hcoap
        exact ⟨hred.trans hcoap.1, hgreen.trans hcoap.2.1, hcoap.2.2⟩
      | _ =>
        rw [hp] at hcoap
        exact fun color => (hvalues color).trans (hcoap color)
    | coap => exact ⟨h.main, Written.advance h.coap ha⟩

theorem tracks_calls {actions : List LedAction} {s : LedTasks}
    (h : system.run {} actions = some s) : Tracks s (lastColor (calls actions)) := by
  induction actions using List.reverseRecOn generalizing s with
  | nil =>
    obtain rfl := Option.some.inj h
    refine ⟨id, fun color => ?_⟩
    cases color <;> rfl
  | append_singleton actions action ih =>
    obtain ⟨t, ht, hs⟩ := system.run_snoc_some.mp h
    rw [calls_snoc]
    exact (ih ht).step hs

structure Fits (s : LedTasks) : Prop where
  led : s.led.Fits
  main : s.main.Fits
  coap : s.coap.Fits

theorem fits_step (s : LedTasks) (action : LedAction) (t : LedTasks) (h : Fits s)
    (ht : system.step s action = some t) : Fits t := by
  cases action with
  | call task call =>
    obtain ⟨_, _, rfl⟩ := step_call ht
    have henter : (LedPoint.enter call).Fits := by cases call <;> trivial
    cases task with
    | main => exact ⟨h.led, henter, h.coap⟩
    | coap => exact ⟨h.led, h.main, henter⟩
  | step task =>
    obtain ⟨led, point, ha, rfl⟩ := step_task ht
    cases task with
    | main =>
      obtain ⟨hled, hpoint⟩ := fits_advance h.led h.main ha
      exact ⟨hled, hpoint, h.coap⟩
    | coap =>
      obtain ⟨hled, hpoint⟩ := fits_advance h.led h.coap ha
      exact ⟨hled, h.main, hpoint⟩

theorem agrees_step (s : LedTasks) (action : LedAction) (t : LedTasks)
    (h : s.led.Agrees s.main s.coap) (ho : ¬ Overtaking s action)
    (ht : system.step s action = some t) : t.led.Agrees t.main t.coap := by
  have henter : ∀ {q : LedPoint} (call : LedCall), s.led.Agrees .outside q →
      s.led.Agrees (.enter call) q := by
    intro q call h
    apply h.move
    · rintro color duty ⟨time, hp⟩
      cases call <;> cases hp
    · intro _
      cases call <;> exact id
    · exact fun _ _ => False.elim
  cases action with
  | call task call =>
    obtain ⟨hpoint, _, rfl⟩ := step_call ht
    cases task with
    | main =>
      have hpoint : s.main = .outside := hpoint
      rw [hpoint] at h
      exact henter call h
    | coap =>
      have hpoint : s.coap = .outside := hpoint
      rw [hpoint] at h
      exact (henter call h.symm).symm
  | step task =>
    obtain ⟨led, point, ha, rfl⟩ := step_task ht
    cases task with
    | main => exact h.advance ho ha
    | coap => exact (h.symm.advance ho ha).symm

theorem agrees_start : (({} : LedTasks).led).Agrees .outside .outside := by
  refine ⟨⟨by decide, by decide, by decide⟩, ?_, ?_, ?_, ?_⟩
  · rintro color duty ⟨time, hp⟩
    cases hp
  · rintro color duty ⟨time, hp⟩
    cases hp
  · intro hu
    cases hu
  · intro hu
    cases hu

theorem getColor_of_values {led : LEDResource} {c : Rgb}
    (h : ∀ color : Primary, color.value led = level (color.component c)) : led.getColor = c := by
  have hr : led.redValue = level c.red := h .red
  have hg : led.greenValue = level c.green := h .green
  have hb : led.blueValue = level c.blue := h .blue
  unfold LEDResource.getColor
  rw [hr, hg, hb]
  simp only [level, shift_roundtrip]

theorem shows_of_lights {led : LEDResource} {c : Rgb}
    (h : ∀ color : Primary, led.duty (color.config led) = level (color.component c)) :
    Shows led c := by
  have hr : led.duty led.ledcRedChannel = level c.red := h .red
  have hg : led.duty led.ledcGreenChannel = level c.green := h .green
  have hb : led.duty led.ledcBlueChannel = level c.blue := h .blue
  refine ⟨?_, ?_, ?_⟩
  · rw [hr]; exact shiftLeft_two_toNat _
  · rw [hg]; exact shiftLeft_two_toNat _
  · rw [hb]; exact shiftLeft_two_toNat _

/-- However the steps of both tasks interleave, `GetColor` of the CoAP task returns the colour it
set last and no fade leaves the range. Without overtaking, the LED in mode user shows that colour
whenever both tasks are outside. -/
theorem color_interleaved {actions : List LedAction} {s : LedTasks}
    (hr : system.run {} actions = some s) :
    (s.coap = .outside → s.led.getColor = lastColor (calls actions)) ∧
    (∀ f ∈ s.led.fades, f.targetDuty.toNat < 2 ^ kLedcResolution) ∧
    (system.Along (fun s action => ¬ Overtaking s action) {} actions →
      s.main = .outside → s.coap = .outside → s.led.mode = .user →
      Shows s.led (lastColor (calls actions))) := by
  have htracks := tracks_calls hr
  have hvalues : s.coap = .outside → ∀ color : Primary,
      color.value s.led = level (color.component (lastColor (calls actions))) := by
    intro hcoap
    have hwritten := htracks.coap
    rw [hcoap] at hwritten
    exact hwritten
  refine ⟨fun hcoap => getColor_of_values (hvalues hcoap), ?_, ?_⟩
  · have hstart : Fits {} := by
      refine ⟨⟨fun color => ?_, fun f hf => (by cases hf)⟩, trivial, trivial⟩
      cases color <;> exact fits_zero
    have hfits : Fits s := system.run_invariant (fun s a t h _ => fits_step s a t h) hstart
      (system.along_true {} actions) hr
    exact hfits.led.fades
  · intro halong hmain hcoap hu
    have hagrees : s.led.Agrees s.main s.coap :=
      system.run_invariant agrees_step agrees_start halong hr
    rw [hmain, hcoap] at hagrees
    apply shows_of_lights
    intro color
    rcases hagrees.lights hu color with hl | hl | hl
    · exact hl.trans (hvalues hcoap color)
    · exact False.elim hl
    · exact False.elim hl

def bothCalls : List LedAction :=
  .call .coap (.setColor 1 2 3) :: .step .coap :: .call .main (.setMode .user) :: .step .main ::
    .step .coap :: .step .main :: .step .coap :: .step .coap :: .step .main ::
    (List.replicate 6 [.step .main, .step .coap]).flatten

theorem color_interleaved_both :
    ∃ s, system.run {} bothCalls = some s ∧ s.main = .outside ∧ s.coap = .outside ∧
      Shows s.led ⟨1, 2, 3⟩ := by
  obtain ⟨s, hr, hmain, hcoap, hu⟩ : ∃ s, system.run {} bothCalls = some s ∧ s.main = .outside ∧
      s.coap = .outside ∧ s.led.mode = .user := ⟨_, rfl, rfl, rfl, rfl⟩
  refine ⟨s, hr, hmain, hcoap, (color_interleaved hr).2.2 ?_ hmain hcoap hu⟩
  have hread : ∀ {p : LedPoint} {color : Primary} {value : UInt32},
      (∀ duty, ¬ p.Holds color duty) → ¬ ∃ duty, p.Holds color duty ∧ duty ≠ value := by
    rintro p color value hp ⟨duty, hholds, _⟩
    exact hp duty hholds
  iterate 21
    refine System.Along.cons _ ?_ rfl ?_
    · first
      | exact id
      | exact hread (by rintro duty ⟨time, hp⟩; cases hp)
  exact system.along_nil _

end LedTasks

end IoTNode
