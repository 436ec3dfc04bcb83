import IoTNode.Json
import IoTNode.Led
import IoTNode.LobaroMessages

set_option autoImplicit false

namespace IoTNode.LEDResource

open Coap Lobaro

variable (lib : LobaroLibrary) (json : JsonLibrary)

def getUInt8 (value : Json) : Except Abort UInt8 :=
  match json.getUInt8 value with
  | some n => .ok n
  | none => .error .exception

def readColor (input : Json) : Except Abort (Option Rgb) :=
  match input.find "color" with
  | some (.array [r, g, b]) => do
    let red ← getUInt8 json r
    let green ← getUInt8 json g
    let blue ← getUInt8 json b
    return some ⟨red, green, blue⟩
  | _ => return none

def readMode (input : Json) : Option Mode :=
  match input.find "mode" with
  | some (.string mode) =>
    if mode = "status" then some .showStatus else if mode = "user" then some .user else none
  | _ => none

def applyColor (led : LEDResource) : Option Rgb → LEDResource
  | some c => led.setColor c.red c.green c.blue
  | none => led

def applyMode (led : LEDResource) : Option Mode → LEDResource
  | some m => led.setMode m
  | none => led

def applyMembers (led : LEDResource) (color : Option Rgb) (mode : Option Mode) : LEDResource :=
  (led.applyColor color).applyMode mode

def readInput (led : LEDResource) (request : LobaroCoapMessage) :
    Except Abort (Option (LEDResource × CoapMessageCode)) :=
  if request.getCode = .post then
    if (request.getOption lib CoapOptionValue.contentFormat.number).1 = .ok then
      match request.getPayload with
      | (.ok, some inputPayload) =>
        match json.parse inputPayload with
        | some input => do
          let color ← readColor json input
          return some (led.applyMembers color (readMode input), .changed)
        | none => .error .exception
      -- the early return with 4.00
      | _ => .ok none
    else .ok (some (led, .content))
  else .ok (some (led, .content))

def modeName : Mode → String
  | .showStatus => "status"
  | .user => "user"

def output (led : LEDResource) : Json :=
  let c := led.getColor
  .object (Json.setMember
    (Json.setMember [] "color" (.array [Json.uint8 c.red, Json.uint8 c.green, Json.uint8 c.blue]))
    "mode" (.string (modeName led.mode)))

def respond (led : LEDResource) (accept : UInt32) (code : CoapMessageCode)
    (response : LobaroCoapMessage) : LobaroCoapMessage × CoapResult :=
  if accept = CoapContentType.applicationJson.toUInt32 then
    answer lib (·.addOption lib) response .applicationJson (json.dump led.output) code
  else if accept = CoapContentType.applicationCbor.toUInt32 then
    answer lib (·.addOption lib) response .applicationCbor (json.toCbor led.output) code
  else response.setCode .badOption

def handleRequest (led : LEDResource) (request response : LobaroCoapMessage) :
    Except Abort (LEDResource × LobaroCoapMessage × CoapResult) := do
  let format ← acceptedType (request.getOption lib CoapOptionValue.accept.number) .applicationJson
  let accept : UInt32 := format.toUInt32
  match ← readInput lib json led request with
  | none => return (led, (response.setCode .badRequest).1, .error)
  | some (led, code) => return (led, respond lib json led accept code response)

def Supported (format : CoapContentType) : Prop :=
  format = .applicationJson ∨ format = .applicationCbor

instance (format : CoapContentType) : Decidable (Supported format) :=
  inferInstanceAs (Decidable (format = _ ∨ format = _))

def answerFormat (request : LobaroCoapMessage) : CoapContentType :=
  negotiated lib request.message.pOptionsList .applicationJson

/-- The payload that `HandleRequest` hands to `json::parse`. -/
def parsedBytes (request : LobaroCoapMessage) : Option Payload :=
  if request.getCode = .post ∧
      (request.getOption lib CoapOptionValue.contentFormat.number).1 = .ok then
    request.getPayload.2
  else none

def postedInput (request : LobaroCoapMessage) : Option Json :=
  if request.getCode = .post ∧
      (request.getOption lib CoapOptionValue.contentFormat.number).1 = .ok then
    request.getPayload.2.bind json.parse
  else none

@[simp] theorem applyColor_mode (led : LEDResource) (color : Option Rgb) :
    (led.applyColor color).mode = led.mode := by
  cases color with
  | none => rfl
  | some c => exact setColor_mode led _ _ _

theorem applyMode_mode (led : LEDResource) (mode : Option Mode) :
    (led.applyMode mode).mode = mode.getD led.mode := by
  cases mode with
  | none => rfl
  | some m => exact setMode_mode led m

theorem applyMembers_mode (led : LEDResource) (color : Option Rgb) (mode : Option Mode) :
    (led.applyMembers color mode).mode = mode.getD led.mode := by
  rw [applyMembers, applyMode_mode, applyColor_mode]

theorem handleRequest_eq (led : LEDResource) (request response : LobaroCoapMessage) :
    handleRequest lib json led request response =
      (readInput lib json led request).map (fun input =>
        match input with
        | none => (led, (response.setCode .badRequest).1, .error)
        | some (led', code) =>
          (led', respond lib json led' (answerFormat lib request).toUInt32 code response)) := by
  unfold handleRequest LobaroCoapMessage.getOption
  rw [acceptedType_accept]
  cases readInput lib json led request with
  | error e => rfl
  | ok input => cases input <;> rfl

theorem postedInput_eq (request : LobaroCoapMessage) :
    postedInput lib json request = (parsedBytes lib request).bind json.parse := by
  unfold postedInput parsedBytes
  split_ifs <;> rfl

theorem readInput_parsed {led : LEDResource} {request : LobaroCoapMessage} {bytes : Payload}
    (h : parsedBytes lib request = some bytes) :
    readInput lib json led request =
      match json.parse bytes with
      | some input => (readColor json input).map (fun color =>
          some (led.applyMembers color (readMode input), .changed))
      | none => .error .exception := by
  unfold parsedBytes at h
  split_ifs at h with hpost
  unfold readInput
  rw [if_pos hpost.1, if_pos hpost.2]
  unfold LobaroCoapMessage.getPayload at h ⊢
  cases hpayload : request.message.payload with
  | none => rw [hpayload] at h; cases h
  | some stored =>
    rw [hpayload] at h
    obtain rfl := Option.some.inj h
    dsimp only
    cases json.parse (stored.take request.message.payloadLength.toNat) with
    | none => rfl
    | some input => cases readColor json input <;> rfl

theorem readInput_unparsed {led : LEDResource} {request : LobaroCoapMessage}
    (h : parsedBytes lib request = none) :
    readInput lib json led request = .ok none ∨
      readInput lib json led request = .ok (some (led, .content)) := by
  unfold readInput
  by_cases hpost : request.getCode = .post
  · by_cases hformat : (request.getOption lib CoapOptionValue.contentFormat.number).1 = .ok
    · rw [if_pos hpost, if_pos hformat]
      unfold parsedBytes at h
      rw [if_pos ⟨hpost, hformat⟩] at h
      unfold LobaroCoapMessage.getPayload at h ⊢
      cases hpayload : request.message.payload with
      | none => exact Or.inl rfl
      | some stored => rw [hpayload] at h; cases h
    · rw [if_pos hpost, if_neg hformat]
      exact Or.inr rfl
  · rw [if_neg hpost]
    exact Or.inr rfl

theorem readInput_posted {led : LEDResource} {request : LobaroCoapMessage} {posted : Json}
    (h : postedInput lib json request = some posted) :
    readInput lib json led request = (readColor json posted).map
      (fun color => some (led.applyMembers color (readMode posted), .changed)) := by
  rw [postedInput_eq] at h
  obtain ⟨bytes, hbytes, hparse⟩ := Option.bind_eq_some_iff.mp h
  rw [readInput_parsed lib json hbytes, hparse]

theorem readInput_ok {led : LEDResource} {request : LobaroCoapMessage}
    {input : Option (LEDResource × CoapMessageCode)}
    (h : readInput lib json led request = .ok input) :
    input = none ∨ input = some (led, .content) ∨
      ∃ posted color, postedInput lib json request = some posted ∧
        readColor json posted = .ok color ∧
        input = some (led.applyMembers color (readMode posted), .changed) := by
  cases hbytes : parsedBytes lib request with
  | none =>
    have hread : readInput lib json led request = .ok none ∨ _ := readInput_unparsed lib json hbytes
    rcases hread with hr | hr
    · exact Or.inl (Except.ok.inj (h.symm.trans hr))
    · exact Or.inr (Or.inl (Except.ok.inj (h.symm.trans hr)))
  | some bytes =>
    cases hparse : json.parse bytes with
    | none =>
      rw [readInput_parsed lib json hbytes, hparse] at h
      cases h
    | some posted =>
      have hposted : postedInput lib json request = some posted := by
        rw [postedInput_eq, hbytes]
        exact hparse
      rw [readInput_posted lib json hposted] at h
      cases hcolor : readColor json posted with
      | error abort => rw [hcolor] at h; cases h
      | ok color =>
        rw [hcolor] at h
        exact Or.inr (Or.inr ⟨posted, color, hposted, hcolor, (Except.ok.inj h).symm⟩)

theorem handleRequest_ok {led led' : LEDResource} {request response response' : LobaroCoapMessage}
    {result : CoapResult}
    (h : handleRequest lib json led request response = .ok (led', response', result)) :
    (led' = led ∧ response' = (response.setCode .badRequest).1 ∧ result = .error) ∨
    (led' = led ∧ (response', result) =
      respond lib json led' (answerFormat lib request).toUInt32 .content response) ∨
    ∃ posted color, postedInput lib json request = some posted ∧
      readColor json posted = .ok color ∧ led' = led.applyMembers color (readMode posted) ∧
      (response', result) =
        respond lib json led' (answerFormat lib request).toUInt32 .changed response := by
  rw [handleRequest_eq] at h
  cases hinput : readInput lib json led request with
  | error e => rw [hinput] at h; cases h
  | ok input =>
    rw [hinput] at h
    have he := Except.ok.inj h
    rcases readInput_ok lib json hinput with rfl | rfl | ⟨posted, color, hp, hc, rfl⟩
    · obtain ⟨rfl, hr⟩ := Prod.mk.inj he
      obtain ⟨rfl, rfl⟩ := Prod.mk.inj hr
      exact Or.inl ⟨rfl, rfl, rfl⟩
    · obtain ⟨rfl, hr⟩ := Prod.mk.inj he
      exact Or.inr (Or.inl ⟨rfl, hr.symm⟩)
    · obtain ⟨rfl, hr⟩ := Prod.mk.inj he
      exact Or.inr (Or.inr ⟨posted, color, hp, hc, rfl, hr.symm⟩)

theorem handleRequest_posted {led : LEDResource} {request response : LobaroCoapMessage}
    {posted : Json} {color : Option Rgb} (hp : postedInput lib json request = some posted)
    (hc : readColor json posted = .ok color) :
    handleRequest lib json led request response =
      .ok (led.applyMembers color (readMode posted),
        respond lib json (led.applyMembers color (readMode posted))
          (answerFormat lib request).toUInt32 .changed response) := by
  rw [handleRequest_eq, readInput_posted lib json hp, hc]
  rfl

theorem respond_unsupported {led : LEDResource} {format : CoapContentType} {code : CoapMessageCode}
    {response : LobaroCoapMessage} (h : ¬ Supported format) :
    respond lib json led format.toUInt32 code response = response.setCode .badOption := by
  unfold respond
  unfold Supported at h
  rw [not_or] at h
  rw [if_neg (fun he => h.1 (CoapContentType.toUInt32_inj.mp he)),
    if_neg (fun he => h.2 (CoapContentType.toUInt32_inj.mp he))]

theorem respond_code {led : LEDResource} {format : CoapContentType} {code : CoapMessageCode}
    {response : LobaroCoapMessage} (h : Supported format) :
    (respond lib json led format.toUInt32 code response).1.getCode = code := by
  rcases h with rfl | rfl <;> rfl

theorem respond_getCode (led : LEDResource) (format : CoapContentType) (code : CoapMessageCode)
    (response : LobaroCoapMessage) :
    (respond lib json led format.toUInt32 code response).1.getCode =
      if Supported format then code else .badOption := by
  split_ifs with hs
  · exact respond_code lib json hs
  · rw [respond_unsupported lib json hs]
    rfl

theorem handleRequest_changed {led led' : LEDResource}
    {request response response' : LobaroCoapMessage} {result : CoapResult}
    (h : handleRequest lib json led request response = .ok (led', response', result))
    (hc : response'.getCode = .changed) :
    Supported (answerFormat lib request) ∧ ∃ posted color,
      postedInput lib json request = some posted ∧ readColor json posted = .ok color ∧
        led' = led.applyMembers color (readMode posted) := by
  have hbad : (response.setCode .badRequest).1.getCode ≠ .changed := by
    change CoapMessageCode.badRequest ≠ .changed
    decide
  have hanswer : ∀ code, (response', result) =
      respond lib json led' (answerFormat lib request).toUInt32 code response →
      Supported (answerFormat lib request) ∧ code = .changed := by
    intro code hr
    have hcode := respond_getCode lib json led' (answerFormat lib request) code response
    rw [← hr, hc] at hcode
    split_ifs at hcode with hs
    · exact ⟨hs, hcode.symm⟩
    · exact absurd hcode (by decide)
  rcases handleRequest_ok lib json h with
    ⟨_, rfl, _⟩ | ⟨_, hr⟩ | ⟨posted, color, hposted, hcolor, hled, hr⟩
  · exact absurd hc hbad
  · exact absurd (hanswer _ hr).2 (by decide)
  · exact ⟨(hanswer _ hr).1, posted, color, hposted, hcolor, hled⟩

end IoTNode.LEDResource
