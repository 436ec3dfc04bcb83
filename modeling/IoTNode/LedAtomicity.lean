import IoTNode.JsonReference
import IoTNode.LedRequests

set_option autoImplicit false

namespace IoTNode.LEDResource

open Coap Lobaro

def Unchanged (led led' : LEDResource) : Prop :=
  led'.redValue = led.redValue ∧ led'.greenValue = led.greenValue ∧
    led'.blueValue = led.blueValue ∧ led'.mode = led.mode ∧ led'.fades = led.fades

def FailureAtomic (lib : LobaroLibrary) (json : JsonLibrary) (led : LEDResource)
    (request response : LobaroCoapMessage) : Prop :=
  ∀ led' response' result,
    handleRequest lib json led request response = .ok (led', response', result) →
    response'.getCode ≠ .changed → Unchanged led led'

def ColorInert (led : LEDResource) (c : Rgb) : Prop :=
  led.mode ≠ .user ∧ led.redValue = c.red.toUInt32 <<< 2 ∧
    led.greenValue = c.green.toUInt32 <<< 2 ∧ led.blueValue = c.blue.toUInt32 <<< 2

def Inert (led : LEDResource) (color : Option Rgb) (mode : Option Mode) : Prop :=
  (∀ c, color = some c → ColorInert led c) ∧ ∀ m, mode = some m → m = led.mode

theorem unchanged_refl (led : LEDResource) : Unchanged led led := ⟨rfl, rfl, rfl, rfl, rfl⟩

theorem setColor_unchanged_iff (led : LEDResource) (c : Rgb) :
    Unchanged led (led.setColor c.red c.green c.blue) ↔ ColorInert led c := by
  unfold Unchanged setColor ColorInert
  dsimp only
  by_cases hu : led.mode = .user
  · rw [if_neg (not_not.mpr hu)]
    constructor
    · rintro ⟨_, _, _, _, hf⟩
      simp [startFades] at hf
    · rintro ⟨hn, _⟩
      exact absurd hu hn
  · rw [if_pos hu]
    constructor
    · rintro ⟨hr, hg, hb, _, _⟩
      exact ⟨hu, hr.symm, hg.symm, hb.symm⟩
    · rintro ⟨_, hr, hg, hb⟩
      exact ⟨hr.symm, hg.symm, hb.symm, rfl, rfl⟩

theorem setMode_unchanged {led led' : LEDResource} {m : Mode} (hm : led'.mode = led.mode) :
    Unchanged led (led'.setMode m) ↔ m = led.mode ∧ Unchanged led led' := by
  constructor
  · intro h
    have hmode : m = led.mode := by
      rw [← setMode_mode led' m]
      exact h.2.2.2.1
    refine ⟨hmode, ?_⟩
    rw [hmode, ← hm, setMode_self] at h
    exact h
  · rintro ⟨rfl, h⟩
    rw [← hm, setMode_self]
    exact h

theorem applyColor_unchanged_iff (led : LEDResource) (color : Option Rgb) :
    Unchanged led (led.applyColor color) ↔ ∀ c, color = some c → ColorInert led c := by
  cases color with
  | none => exact iff_of_true (unchanged_refl led) (fun c hc => by cases hc)
  | some c =>
    apply (setColor_unchanged_iff led c).trans
    constructor
    · rintro h _ ⟨⟩
      exact h
    · exact fun h => h c rfl

theorem applyMembers_unchanged_iff (led : LEDResource) (color : Option Rgb) (mode : Option Mode) :
    Unchanged led (led.applyMembers color mode) ↔ Inert led color mode := by
  unfold applyMembers Inert
  rw [← applyColor_unchanged_iff]
  cases mode with
  | none => simp [applyMode]
  | some m =>
    unfold applyMode
    dsimp only
    rw [setMode_unchanged (applyColor_mode led color), and_comm]
    apply and_congr_right'
    constructor
    · rintro h _ ⟨⟩
      exact h
    · exact fun h => h m rfl

variable (lib : LobaroLibrary) (json : JsonLibrary) (led : LEDResource)
  (request response : LobaroCoapMessage)

theorem failureAtomic_iff :
    FailureAtomic lib json led request response ↔
      Supported (answerFormat lib request) ∨
        ∀ posted color, postedInput lib json request = some posted →
          readColor json posted = .ok color → Inert led color (readMode posted) := by
  constructor
  · intro h
    by_cases hs : Supported (answerFormat lib request)
    · exact Or.inl hs
    · refine Or.inr ?_
      intro posted color hp hc
      apply (applyMembers_unchanged_iff led color (readMode posted)).mp
      have hr : handleRequest lib json led request response = _ :=
        handleRequest_posted lib json hp hc
      rw [respond_unsupported lib json hs] at hr
      apply h _ _ _ hr
      change CoapMessageCode.badOption ≠ CoapMessageCode.changed
      decide
  · intro h led' response' result hr hcode
    rcases handleRequest_ok lib json hr with
      ⟨rfl, _⟩ | ⟨rfl, _⟩ | ⟨posted, color, hp, hc, rfl, hresp⟩
    · exact unchanged_refl led'
    · exact unchanged_refl led'
    · apply (applyMembers_unchanged_iff led color (readMode posted)).mpr
      rcases h with hs | h
      · refine absurd ?_ hcode
        rw [show response' = _ from congrArg Prod.fst hresp]
        exact respond_code lib json hs
      · exact h posted color hp hc

/-- `{"mode":"user"}` -/
def userModeText : List UInt8 :=
  [0x7b, 0x22, 0x6d, 0x6f, 0x64, 0x65, 0x22, 0x3a, 0x22, 0x75, 0x73, 0x65, 0x72, 0x22, 0x7d]

def userModeJson : JsonLibrary :=
  referenceJson [(userModeText, .object [("mode", .string "user")])]

def userModePost : LobaroCoapMessage :=
  { message :=
      { code := .post
        pOptionsList := [⟨12, 1, [50]⟩, ⟨17, 0, []⟩]
        payload := some userModeText
        payloadLength := 15 } }

theorem failureAtomic_counterexample :
    ¬ FailureAtomic referenceLibrary userModeJson {} userModePost {} := by
  intro h
  have hp : postedInput referenceLibrary userModeJson userModePost =
      some (.object [("mode", .string "user")]) := rfl
  have hc : readColor userModeJson (.object [("mode", .string "user")]) = .ok none := rfl
  have hr : handleRequest referenceLibrary userModeJson {} userModePost {} = _ :=
    handleRequest_posted referenceLibrary userModeJson hp hc
  have hu := h _ _ _ hr (by decide)
  exact absurd hu.2.2.2.1 (by decide)

end IoTNode.LEDResource
