import IoTNode.CompleteResponses
import IoTNode.LedPosts

set_option autoImplicit false

namespace IoTNode.LEDResource

open Coap Lobaro

def NamesColor (v : Json) (c : Rgb) : Prop :=
  ∃ r g b, v = .array [r, g, b] ∧ r.Denotes c.red ∧ g.Denotes c.green ∧ b.Denotes c.blue

structure WellFormed (input : Json) : Prop where
  color : ∀ v, input.find "color" = some v → ∃ c, NamesColor v c
  mode : ∀ v, input.find "mode" = some v → ∃ m, v = .string (modeName m)

def SameColor (led led' : LEDResource) : Prop :=
  led'.redValue = led.redValue ∧ led'.greenValue = led.greenValue ∧ led'.blueValue = led.blueValue

structure Applied (input : Json) (led led' : LEDResource) : Prop where
  color : ∀ v, input.find "color" = some v → ∃ c, NamesColor v c ∧ led'.getColor = c
  mode : ∀ v, input.find "mode" = some v → ∃ m, v = .string (modeName m) ∧ led'.mode = m
  colorKept : input.find "color" = none → SameColor led led'
  modeKept : input.find "mode" = none → led'.mode = led.mode

section Members

variable {json : JsonLibrary} {input : Json} {led : LEDResource}

theorem readColor_names (hcast : ExactCasts json) {v : Json} {c : Rgb}
    (h : input.find "color" = some v) (hn : NamesColor v c) :
    readColor json input = .ok (some c) := by
  obtain ⟨r, g, b, rfl, hr, hg, hb⟩ := hn
  exact readColor_array h (hcast _ _ hr) (hcast _ _ hg) (hcast _ _ hb)

theorem readMode_names {m : Mode} (h : input.find "mode" = some (.string (modeName m))) :
    readMode input = some m := by
  unfold readMode
  rw [h]
  cases m <;> rfl

theorem readMode_absent (h : input.find "mode" = none) : readMode input = none := by
  unfold readMode
  rw [h]

theorem applyMembers_getColor (c : Rgb) (mode : Option Mode) :
    (led.applyMembers (some c) mode).getColor = c := by
  cases mode <;> simp [applyMembers, applyColor, applyMode]

theorem setMode_sameColor (m : Mode) : SameColor led (led.setMode m) := by
  unfold setMode
  dsimp only
  split_ifs <;> exact ⟨rfl, rfl, rfl⟩

theorem applyMembers_sameColor (mode : Option Mode) :
    SameColor led (led.applyMembers none mode) := by
  cases mode with
  | none => exact ⟨rfl, rfl, rfl⟩
  | some m => exact setMode_sameColor m

theorem applied_of_wellFormed (hcast : ExactCasts json) (hw : WellFormed input)
    {color : Option Rgb} (hc : readColor json input = .ok color) :
    Applied input led (led.applyMembers color (readMode input)) where
  color v hv := by
    obtain ⟨c, hn⟩ := hw.color v hv
    rw [readColor_names hcast hv hn] at hc
    obtain rfl := Except.ok.inj hc
    exact ⟨c, hn, applyMembers_getColor c _⟩
  mode v hv := by
    obtain ⟨m, rfl⟩ := hw.mode v hv
    exact ⟨m, rfl, by rw [applyMembers_mode, readMode_names hv, Option.getD_some]⟩
  colorKept hv := by
    rw [readColor_ignored (fun r g b h => by rw [hv] at h; cases h)] at hc
    obtain rfl := Except.ok.inj hc
    exact applyMembers_sameColor _
  modeKept hv := by rw [applyMembers_mode, readMode_absent hv, Option.getD_none]

theorem Applied.wellFormed {led' : LEDResource} (h : Applied input led led') :
    WellFormed input where
  color v hv := by
    obtain ⟨c, hn, _⟩ := h.color v hv
    exact ⟨c, hn⟩
  mode v hv := by
    obtain ⟨m, hm, _⟩ := h.mode v hv
    exact ⟨m, hm⟩

end Members

variable (lib : LobaroLibrary) (json : JsonLibrary)

def ChangedApplied (led : LEDResource) (request response : LobaroCoapMessage) : Prop :=
  ∀ input led' outcome, postedInput lib json request = some input → IsObject input →
    handleRequest lib json led request response = .ok (led', outcome) →
    outcome.1.getCode = .changed → Applied input led led'

theorem changedApplied_iff (hcast : ExactCasts json) (led : LEDResource)
    (request response : LobaroCoapMessage) :
    ChangedApplied lib json led request response ↔
      ∀ input, postedInput lib json request = some input → IsObject input →
        Supported (answerFormat lib request) → ColorReadable json input → WellFormed input := by
  constructor
  · intro h input hposted hobject hs hread
    obtain ⟨color, hcolor⟩ := readColor_ok_iff.mpr hread
    have hr : handleRequest lib json led request response = _ :=
      handleRequest_posted lib json hposted hcolor
    exact (h input _ _ hposted hobject hr (respond_code lib json hs)).wellFormed
  · intro h input led' outcome hposted hobject hr hcode
    obtain ⟨hs, posted, color, hposted', hcolor, rfl⟩ := handleRequest_changed lib json hr hcode
    obtain rfl := Option.some.inj (hposted.symm.trans hposted')
    exact applied_of_wellFormed hcast
      (h input hposted hobject hs (readColor_ok_iff.mp ⟨color, hcolor⟩)) hcolor

theorem changedApplied_iff_status :
    ChangedApplied referenceLibrary MainLoop.statusModeJson {} MainLoop.statusModePost {} := by
  refine (changedApplied_iff referenceLibrary MainLoop.statusModeJson (referenceJson_exactCasts _)
    {} MainLoop.statusModePost {}).mpr ?_
  rintro input hposted _ _ _
  obtain rfl := Option.some.inj hposted
  refine ⟨fun v hv => (by cases hv), fun v hv => ?_⟩
  obtain rfl := Option.some.inj hv
  exact ⟨.showStatus, rfl⟩

/-- `{"color":[256,0,0]}` -/
def wideColorText : List UInt8 :=
  [0x7b, 0x22, 0x63, 0x6f, 0x6c, 0x6f, 0x72, 0x22, 0x3a, 0x5b, 0x32, 0x35, 0x36, 0x2c, 0x30, 0x2c,
    0x30, 0x5d, 0x7d]

def wideColor : Json :=
  .object [("color", .array [.numberInteger 256, .numberInteger 0, .numberInteger 0])]

def wideColorPost : LobaroCoapMessage :=
  { message :=
      { code := .post
        pOptionsList := [⟨12, 1, [50]⟩]
        payload := some wideColorText
        payloadLength := 19 } }

theorem changedApplied_counterexample :
    ¬ ChangedApplied referenceLibrary (referenceJson [(wideColorText, wideColor)]) {}
      wideColorPost {} := by
  intro h
  have hposted : postedInput referenceLibrary (referenceJson [(wideColorText, wideColor)])
      wideColorPost = some wideColor := rfl
  have hcolor : readColor (referenceJson [(wideColorText, wideColor)]) wideColor =
      .ok (some ⟨0, 0, 0⟩) := rfl
  have hr : handleRequest referenceLibrary (referenceJson [(wideColorText, wideColor)]) {}
      wideColorPost {} = _ := handleRequest_posted _ _ hposted hcolor
  obtain ⟨c, ⟨r, g, b, he, hred, _⟩, _⟩ := (h wideColor _ _ rfl ⟨_, rfl⟩ hr rfl).color _ rfl
  have hlt := c.red.toNat_lt
  obtain ⟨rfl, _⟩ := List.cons.inj (Json.array.inj he)
  rcases hred with hi | hf
  · have := Json.numberInteger.inj hi
    omega
  · cases hf

section Echo

variable {lib} {json}

theorem output_color (led : LEDResource) :
    led.output.find "color" = some (.array
      [.uint8 led.getColor.red, .uint8 led.getColor.green, .uint8 led.getColor.blue]) := by
  have hne : ¬ ("mode" : String) = "color" := by decide
  unfold output
  rw [Json.find_setMember, if_neg hne, Json.find_setMember, if_pos rfl]

theorem output_names (led : LEDResource) :
    NamesColor (.array [.uint8 led.getColor.red, .uint8 led.getColor.green,
      .uint8 led.getColor.blue]) led.getColor :=
  ⟨_, _, _, rfl, Or.inl rfl, Or.inl rfl, Or.inl rfl⟩

end Echo

/-- `post` carries the payload that answered `get` and the Content-Format that labelled it. -/
structure Echoes (lib' : LobaroLibrary) (led : LEDResource)
    (get response post : LobaroCoapMessage) : Prop where
  getCode : get.getCode = .get
  produced : Supported (answerFormat lib get)
  postCode : post.getCode = .post
  accepted : Supported (answerFormat lib' post)
  echoed : ∃ led' answered label labelled body stored,
    handleRequest lib json led get response = .ok (led', answered) ∧
      answered.1.calls =
        response.calls ++ [.storedOption label labelled, .storedPayload body stored] ∧
      post.getOption lib' CoapOptionValue.contentFormat.number = (.ok, some label) ∧
      post.getPayload = (.ok, some body)

def PostedBack (led : LEDResource) (post response : LobaroCoapMessage) : Prop :=
  ∃ led' outcome, handleRequest lib json led post response = .ok (led', outcome) ∧
    outcome.1.getCode = .changed ∧ led'.getColor = led.getColor ∧ led'.mode = led.mode

theorem Echoes.carried {lib' : LobaroLibrary} {led : LEDResource}
    {get response post : LobaroCoapMessage} (h : Echoes lib json lib' led get response post) :
    post.getOption lib' CoapOptionValue.contentFormat.number =
        (.ok, some (contentFormatOption (answerFormat lib get))) ∧
      post.getPayload = (.ok, some (MainLoop.body json (answerFormat lib get) led.output)) := by
  obtain ⟨led', answered, label, labelled, body, stored, hr, hcalls, hlabel, hbody⟩ := h.echoed
  rw [MainLoop.handleRequest_get json h.getCode h.produced] at hr
  obtain ⟨_, rfl⟩ := Prod.mk.inj (Except.ok.inj hr)
  rw [answer_calls (addOption_records lib), List.append_cancel_left_eq] at hcalls
  simp only [List.cons.injEq, MessageCall.storedOption.injEq, MessageCall.storedPayload.injEq,
    and_true] at hcalls
  rw [hlabel, hbody, hcalls.1.1, hcalls.2.1]
  exact ⟨rfl, rfl⟩

theorem Echoes.parsed {lib' : LobaroLibrary} {led : LEDResource}
    {get response post : LobaroCoapMessage} (h : Echoes lib json lib' led get response post) :
    parsedBytes lib' post = some (MainLoop.body json (answerFormat lib get) led.output) := by
  obtain ⟨hlabel, hbody⟩ := h.carried
  unfold parsedBytes
  rw [if_pos ⟨h.postCode, by rw [hlabel]⟩, hbody]

/-- What `post` carries is what can be read from the answer to `get`. -/
theorem Echoes.readBack {lib' : LobaroLibrary} {led : LEDResource}
    {get response post : LobaroCoapMessage} (h : Echoes lib json lib' led get response post) :
    ∃ answered, handleRequest lib json led get response = .ok (led, answered, .ok) ∧
      answered.getCode = .content ∧
      (TakesFormat lib (·.addOption lib) response (answerFormat lib get) →
        post.getOption lib' CoapOptionValue.contentFormat.number =
          answered.getOption lib CoapOptionValue.contentFormat.number) ∧
      (TakesPayload lib (·.addOption lib) response (answerFormat lib get)
          (MainLoop.body json (answerFormat lib get) led.output) →
        post.getPayload = answered.getPayload) := by
  obtain ⟨hlabel, hbody⟩ := h.carried
  have hconveys : Conveys lib (·.addOption lib) response (answerFormat lib get)
      (MainLoop.body json (answerFormat lib get) led.output) .content _ := answer_conveys
  refine ⟨_, MainLoop.handleRequest_get json h.getCode h.produced, hconveys.code, ?_, ?_⟩
  · exact fun ht => hlabel.trans (hconveys.labelled ht).symm
  · exact fun ht => hbody.trans (hconveys.payload ht).symm

theorem echoes_of {lib' : LobaroLibrary} {led : LEDResource} {get post : LobaroCoapMessage}
    (response : LobaroCoapMessage) (hget : get.getCode = .get)
    (hproduced : Supported (answerFormat lib get)) (hpost : post.getCode = .post)
    (haccepted : Supported (answerFormat lib' post))
    (hlabel : post.getOption lib' CoapOptionValue.contentFormat.number =
      (.ok, some (contentFormatOption (answerFormat lib get))))
    (hbody : post.getPayload = (.ok, some (MainLoop.body json (answerFormat lib get) led.output))) :
    Echoes lib json lib' led get response post :=
  ⟨hget, hproduced, hpost, haccepted, _, _, _, _, _, _,
    MainLoop.handleRequest_get json hget hproduced,
    answer_calls (addOption_records lib) _ _ _, hlabel, hbody⟩

theorem postedBack_iff (lib' : LobaroLibrary) (led : LEDResource)
    (hdump : json.parse (json.dump led.output) = some led.output)
    (hcbor : json.parse (json.toCbor led.output) = none) (hcast : ExactCasts json)
    (get response post response' : LobaroCoapMessage)
    (h : Echoes lib json lib' led get response post) :
    (PostedBack lib' json led post response' ↔ answerFormat lib get = .applicationJson) ∧
    ∃ answered, handleRequest lib json led get response = .ok (led, answered, .ok) ∧
      answered.getCode = .content ∧
      (TakesFormat lib (·.addOption lib) response (answerFormat lib get) →
        post.getOption lib' CoapOptionValue.contentFormat.number =
          answered.getOption lib CoapOptionValue.contentFormat.number) ∧
      (TakesPayload lib (·.addOption lib) response (answerFormat lib get)
          (MainLoop.body json (answerFormat lib get) led.output) →
        post.getPayload = answered.getPayload) := by
  refine ⟨?_, h.readBack⟩
  have hparsed := h.parsed
  unfold MainLoop.body at hparsed
  constructor
  · rintro ⟨led', outcome, hr, _⟩
    by_contra hformat
    rw [if_neg hformat] at hparsed
    rw [handleRequest_eq, readInput_parsed lib' json hparsed, hcbor] at hr
    cases hr
  · intro hformat
    rw [if_pos hformat] at hparsed
    have hposted : postedInput lib' json post = some led.output := by
      rw [postedInput_eq, hparsed]
      exact hdump
    have hcolor := readColor_names hcast (output_color led) (output_names led)
    have hmode : readMode led.output = some led.mode := readMode_names (MainLoop.output_mode led)
    refine ⟨_, _, handleRequest_posted lib' json hposted hcolor, ?_, ?_, ?_⟩
    · exact respond_code lib' json h.accepted
    · exact applyMembers_getColor _ _
    · rw [applyMembers_mode, hmode, Option.getD_some]

/-- `{"color":[0,0,0],"mode":"status"}` -/
def initialText : List UInt8 :=
  [0x7b, 0x22, 0x63, 0x6f, 0x6c, 0x6f, 0x72, 0x22, 0x3a, 0x5b, 0x30, 0x2c, 0x30, 0x2c, 0x30, 0x5d,
    0x2c, 0x22, 0x6d, 0x6f, 0x64, 0x65, 0x22, 0x3a, 0x22, 0x73, 0x74, 0x61, 0x74, 0x75, 0x73, 0x22,
    0x7d]

def initialCbor : List UInt8 :=
  [0xa2, 0x65, 0x63, 0x6f, 0x6c, 0x6f, 0x72, 0x83, 0, 0, 0, 0x64, 0x6d, 0x6f, 0x64, 0x65, 0x66,
    0x73, 0x74, 0x61, 0x74, 0x75, 0x73]

def initialJson : JsonLibrary := referenceJson [(initialText, output {})]

theorem initialJson_dump : initialJson.dump (output {}) = initialText := by decide +kernel

theorem initialJson_toCbor : initialJson.toCbor (output {}) = initialCbor := by decide +kernel

def initialGet (accept : UInt8) : LobaroCoapMessage :=
  { message := { code := .get, pOptionsList := [⟨17, 1, [accept]⟩] } }

def initialPost (format : UInt8) (body : List UInt8) : LobaroCoapMessage :=
  { message :=
      { code := .post
        pOptionsList := [⟨12, 1, [format]⟩]
        payload := some body
        payloadLength := UInt16.ofNat body.length } }

theorem postedBack_iff_json :
    PostedBack referenceLibrary initialJson {} (initialPost 50 initialText) {} := by
  have hbody : (initialPost 50 initialText).getPayload =
      (.ok, some (MainLoop.body initialJson .applicationJson (output {}))) :=
    congrArg (fun body => (CoapResult.ok, some body)) initialJson_dump.symm
  have hdump : initialJson.parse (initialJson.dump (output {})) = some (output {}) := by
    rw [initialJson_dump]
    rfl
  have hcbor : initialJson.parse (initialJson.toCbor (output {})) = none := by
    rw [initialJson_toCbor]
    rfl
  exact (postedBack_iff referenceLibrary initialJson referenceLibrary {} hdump hcbor
    (referenceJson_exactCasts _) (initialGet 50) {} (initialPost 50 initialText) {}
    (echoes_of _ _ {} rfl (by decide) rfl (by decide) rfl hbody)).1.mpr rfl

theorem postedBack_counterexample :
    Echoes referenceLibrary initialJson referenceLibrary {} (initialGet 60) {}
      (initialPost 60 initialCbor) ∧
    ¬ PostedBack referenceLibrary initialJson {} (initialPost 60 initialCbor) {} := by
  have hbody : (initialPost 60 initialCbor).getPayload =
      (.ok, some (MainLoop.body initialJson .applicationCbor (output {}))) :=
    congrArg (fun body => (CoapResult.ok, some body)) initialJson_toCbor.symm
  refine ⟨echoes_of _ _ {} rfl (by decide) rfl (by decide) rfl hbody, ?_⟩
  rintro ⟨led', outcome, hr, _⟩
  cases hr

end IoTNode.LEDResource
