import IoTNode.Node

set_option autoImplicit false

namespace IoTNode

open Coap Foundations Lobaro Startup LedRefinement

namespace LEDResource

variable {lib : LobaroLibrary} {json : JsonLibrary}

/-- The colour and the mode that a request sets, when its body is read. -/
def postedMembers (lib : LobaroLibrary) (json : JsonLibrary) (request : LobaroCoapMessage) :
    Option (Option Rgb × Option Mode) :=
  (postedInput lib json request).bind (fun input =>
    match readColor json input with
    | .ok color => some (color, readMode input)
    | .error _ => none)

theorem postedMembers_some {request : LobaroCoapMessage} {color : Option Rgb} {mode : Option Mode}
    (h : postedMembers lib json request = some (color, mode)) :
    ∃ posted, postedInput lib json request = some posted ∧ readColor json posted = .ok color ∧
      readMode posted = mode := by
  obtain ⟨posted, hp, h⟩ := Option.bind_eq_some_iff.mp h
  cases hc : readColor json posted with
  | error abort => rw [hc] at h; cases h
  | ok c =>
    rw [hc] at h
    obtain ⟨rfl, hm⟩ := Prod.mk.inj (Option.some.inj h)
    exact ⟨posted, hp, hc, hm⟩

theorem handleRequest_members {led : LEDResource} {request response : LobaroCoapMessage}
    {outcome : LEDResource × LobaroCoapMessage × CoapResult}
    (h : handleRequest lib json led request response = .ok outcome) :
    outcome.1 = led.applyMembers ((postedMembers lib json request).bind Prod.fst)
      ((postedMembers lib json request).bind Prod.snd) := by
  cases hm : postedMembers lib json request with
  | some members =>
    obtain ⟨color, mode⟩ := members
    obtain ⟨posted, hp, hc, hmode⟩ := postedMembers_some hm
    rw [handleRequest_posted lib json hp hc] at h
    rw [← Except.ok.inj h, hmode]
    rfl
  | none =>
    obtain ⟨led', response', result⟩ := outcome
    rcases handleRequest_ok lib json h with ⟨rfl, _⟩ | ⟨rfl, _⟩ | ⟨posted, color, hp, hc, _⟩
    · rfl
    · rfl
    · rw [postedMembers, hp, Option.bind_some, hc] at hm
      cases hm

theorem applyMembers_color (led : LEDResource) (color : Option Rgb) (mode : Option Mode) :
    (led.applyMembers color mode).getColor = color.getD led.getColor := by
  cases color <;> cases mode <;> simp [applyMembers, applyColor, applyMode]

def memberCalls (color : Option Rgb) (mode : Option Mode) : List LedCall :=
  (color.map (fun c => LedCall.setColor c.red c.green c.blue)).toList ++
    (mode.map LedCall.setMode).toList

theorem applyMembers_calls (led : LEDResource) (color : Option Rgb) (mode : Option Mode) :
    led.applyMembers color mode = (memberCalls color mode).foldl LedCall.apply led := by
  cases color <;> cases mode <;> rfl

theorem handleRequest_ok_iff {led : LEDResource} {request response : LobaroCoapMessage} :
    (∃ outcome, handleRequest lib json led request response = .ok outcome) ↔
      ∀ bytes, parsedBytes lib request = some bytes →
        ∃ input, json.parse bytes = some input ∧ ColorReadable json input := by
  constructor
  · rintro ⟨outcome, h⟩ bytes hbytes
    rw [handleRequest_eq, readInput_parsed lib json hbytes] at h
    cases hparse : json.parse bytes with
    | none => rw [hparse] at h; cases h
    | some input =>
      refine ⟨input, rfl, readColor_ok_iff.mp ?_⟩
      rw [hparse] at h
      cases hc : readColor json input with
      | error abort => simp [hc, Except.map] at h
      | ok color => exact ⟨color, rfl⟩
  · intro h
    obtain ⟨led', outcome, hr, _⟩ := returns_iff.mpr h
    exact ⟨_, hr⟩

def report (c : Rgb) (m : Mode) : Json :=
  .object (Json.setMember
    (Json.setMember [] "color" (.array [Json.uint8 c.red, Json.uint8 c.green, Json.uint8 c.blue]))
    "mode" (.string (modeName m)))

theorem output_report (led : LEDResource) : led.output = report led.getColor led.mode := rfl

end LEDResource

namespace NodeAction

variable (json : JsonLibrary) (storage : Storage)

def posted : NodeAction → Option (Option Rgb × Option Mode)
  | .request lib req _ =>
    if storage.owner req.pResource = some .led then
      LEDResource.postedMembers lib json { message := req }
    else none
  | _ => none

def color? (a : NodeAction) : Option Rgb := (a.posted json storage).bind Prod.fst

def connected : NodeAction → Bool
  | .iterate connected => connected
  | _ => false

-- the first iteration with a connection signals it, and leaves the mode alone
def mode? (past : List NodeAction) : NodeAction → Option Mode
  | .iterate true => if past.any connected then some .user else none
  | .iterate false => some .showStatus
  | a => (a.posted json storage).bind Prod.snd

end NodeAction

namespace Node

variable (json : JsonLibrary) (storage : Storage)

def lastColor (actions : List NodeAction) : Rgb :=
  latest (NodeAction.color? json storage) black actions

def lastMode (actions : List NodeAction) : Mode :=
  latestGiven (NodeAction.mode? json storage) .showStatus actions

/-- What the actions of a run leave in the node. -/
structure Tracks (actions : List NodeAction) (s : Node) : Prop where
  dispatches : Dispatches storage s.registry
  color : s.loop.statusLED.getColor = lastColor json storage actions
  mode : s.loop.statusLED.mode = lastMode json storage actions
  signalled : s.loop.lastConnectedState = actions.any NodeAction.connected
  refined : storage.handle .led ≠ none → MainLoop.Refined s.loop.statusLED

section Tracking

variable {json storage} {bits : ResOpt} {memory : LedMemory} {s t : Node}
  {actions : List NodeAction}

theorem statusLED_getColor (memory : LedMemory) (configured : Bool) :
    (Startup.statusLED memory configured).getColor = black := by
  cases configured <;> simp [Startup.statusLED, LEDResource.getColor, black]

theorem tracks_initial (h : Initial bits storage memory s) : Tracks json storage [] s := by
  obtain ⟨_, hdispatches, hloop⟩ := h.boots
  refine ⟨hdispatches, ?_, ?_, ?_, ?_⟩
  · rw [hloop]
    exact statusLED_getColor memory _
  · rw [hloop]
    cases (storage.handle .led).isSome <;> rfl
  · rw [hloop]
    rfl
  · intro hcreated
    rw [hloop, Option.isSome_iff_ne_none.mpr hcreated]
    exact ⟨_, refines_start⟩

theorem lastColor_snoc (actions : List NodeAction) (a : NodeAction) :
    lastColor json storage (actions ++ [a]) =
      (a.color? json storage).getD (lastColor json storage actions) :=
  latest_snoc (NodeAction.color? json storage) black actions a

theorem lastMode_snoc (actions : List NodeAction) (a : NodeAction) :
    lastMode json storage (actions ++ [a]) =
      (a.mode? json storage actions).getD (lastMode json storage actions) :=
  latestGiven_snoc (NodeAction.mode? json storage) .showStatus actions a

theorem any_snoc (actions : List NodeAction) (a : NodeAction) :
    (actions ++ [a]).any NodeAction.connected =
      (actions.any NodeAction.connected || a.connected) := by
  rw [List.any_append, List.any_cons, List.any_nil, Bool.or_false]

theorem Tracks.iterate (h : Tracks json storage actions s) (connected : Bool) :
    Tracks json storage (actions ++ [.iterate connected])
      { s with loop := s.loop.iteration connected } where
  dispatches := h.dispatches
  color := by
    rw [lastColor_snoc, ← h.color]
    exact MainLoop.iteration_getColor connected
  mode := by
    rw [lastMode_snoc, ← h.mode]
    unfold NodeAction.mode?
    rw [← h.signalled]
    unfold MainLoop.iteration
    cases connected <;> cases s.loop.lastConnectedState <;> simp
  signalled := by
    rw [any_snoc, ← h.signalled]
    exact MainLoop.iteration_latches s.loop connected
  refined hcreated := MainLoop.iteration_refined (h.refined hcreated) connected

theorem Tracks.quiet (h : Tracks json storage actions s) {a : NodeAction}
    (hp : a.posted json storage = none) (hi : ∀ connected, a ≠ .iterate connected)
    (hr : t.registry = s.registry) (hl : t.loop = s.loop) :
    Tracks json storage (actions ++ [a]) t := by
  have hconnected : a.connected = false := by
    cases a <;> first | rfl | exact absurd rfl (hi _)
  have hmode : a.mode? json storage actions = none := by
    cases a with
    | iterate connected => exact absurd rfl (hi connected)
    | request lib req response => simp [NodeAction.mode?, hp]
    | switchTask state => rfl
    | address ipInfo => rfl
  refine ⟨hr ▸ h.dispatches, ?_, ?_, ?_, ?_⟩
  · rw [lastColor_snoc, NodeAction.color?, hp, hl]
    exact h.color
  · rw [lastMode_snoc, hmode, hl]
    exact h.mode
  · rw [any_snoc, hconnected, Bool.or_false, hl]
    exact h.signalled
  · rw [hl]
    exact h.refined

theorem Tracks.led (h : Tracks json storage actions s) {lib : LobaroLibrary}
    {req response : CoAPMessage} {outcome : LEDResource × LobaroCoapMessage × CoapResult}
    (ho : storage.owner req.pResource = some .led)
    (hr : LEDResource.handleRequest lib json s.loop.statusLED { message := req }
      { message := response } = .ok outcome) :
    Tracks json storage (actions ++ [.request lib req response]) (s.withLED outcome.1) := by
  have hposted : (NodeAction.request lib req response).posted json storage =
      LEDResource.postedMembers lib json { message := req } := if_pos ho
  have hmode : (NodeAction.request lib req response).mode? json storage actions =
      (LEDResource.postedMembers lib json { message := req }).bind Prod.snd :=
    congrArg (fun members => members.bind Prod.snd) hposted
  have hled : (s.withLED outcome.1).loop.statusLED = _ := LEDResource.handleRequest_members hr
  refine ⟨h.dispatches, ?_, ?_, ?_, ?_⟩
  · rw [lastColor_snoc, NodeAction.color?, hposted, hled, LEDResource.applyMembers_color, h.color]
  · rw [lastMode_snoc, hmode, hled, LEDResource.applyMembers_mode, h.mode]
  · rw [any_snoc]
    exact h.signalled.trans (Bool.or_false _).symm
  · intro hcreated
    rw [hled]
    exact (h.refined hcreated).applyMembers _ _

theorem Tracks.step (h : Tracks json storage actions s) {a : NodeAction}
    (ht : (system json bits storage memory).step s a = some t) :
    Tracks json storage (actions ++ [a]) t := by
  cases a with
  | iterate connected =>
    obtain rfl := Option.some.inj ht
    exact h.iterate connected
  | switchTask state =>
    obtain rfl := Option.some.inj ht
    exact h.quiet rfl (fun _ he => (by cases he)) rfl rfl
  | address ipInfo =>
    obtain rfl := Option.some.inj ht
    exact h.quiet rfl (fun _ he => (by cases he)) rfl rfl
  | request lib req response =>
    dsimp only [system] at ht
    by_cases ho : storage.owner req.pResource = some .led
    · rw [serve_led h.dispatches ho] at ht
      cases hr : LEDResource.handleRequest lib json s.loop.statusLED { message := req }
          { message := response } with
      | error abort => rw [hr] at ht; cases ht
      | ok outcome =>
        rw [hr] at ht
        obtain rfl := Option.some.inj ht
        exact h.led ho hr
    · obtain ⟨dispatch, hs⟩ : ∃ d, s.serve json lib req response = .ok (s, d) :=
        serve_other h.dispatches ho
      rw [hs] at ht
      obtain rfl := Option.some.inj ht
      exact h.quiet (if_neg ho) (fun _ he => (by cases he)) rfl rfl

theorem tracks_run (hs : Initial bits storage memory s)
    (ht : (system json bits storage memory).run s actions = some t) :
    Tracks json storage actions t := by
  induction actions using List.reverseRecOn generalizing t with
  | nil =>
    obtain rfl := Option.some.inj ht
    exact tracks_initial hs
  | append_singleton actions a ih =>
    obtain ⟨u, hu, ht⟩ := (system json bits storage memory).run_snoc_some.mp ht
    exact (ih hu).step ht

end Tracking

/-- What a GET of the LED reports after any run is told by the actions of the run alone, and in
the mode `user` the three duty cycles show the colour that it reports. -/
theorem node_reports_history (bits : ResOpt) (memory : LedMemory) (s t : Node)
    (actions : List NodeAction) (hs : Initial bits storage memory s)
    (ht : (system json bits storage memory).run s actions = some t) :
    (∀ lib request response, storage.owner request.pResource = some .led → request.code = .get →
      LEDResource.Supported (LEDResource.answerFormat lib { message := request }) →
      ∃ answered,
        t.serve json lib request response = .ok (t, ⟨[.led], answered.message, .ok⟩) ∧
        Conveys lib (·.addOption lib) { message := response }
          (LEDResource.answerFormat lib { message := request })
          (MainLoop.body json (LEDResource.answerFormat lib { message := request })
            (LEDResource.report (lastColor json storage actions) (lastMode json storage actions)))
          .content answered ∧
        answer lib (·.addOption lib) { message := response }
          (LEDResource.answerFormat lib { message := request })
          (MainLoop.body json (LEDResource.answerFormat lib { message := request })
            (LEDResource.report (lastColor json storage actions) (lastMode json storage actions)))
          .content = (answered, .ok)) ∧
    (storage.handle .led ≠ none → lastMode json storage actions = .user →
      Shows t.loop.statusLED (lastColor json storage actions)) := by
  have htracks : Tracks json storage actions t := tracks_run hs ht
  constructor
  · intro lib request response ho hg hsupported
    have hget : LobaroCoapMessage.getCode { message := request } = .get := hg
    refine ⟨_, ?_, answer_conveys, rfl⟩
    rw [serve_led htracks.dispatches ho, MainLoop.handleRequest_get json hget hsupported,
      LEDResource.output_report, htracks.color, htracks.mode]
    rfl
  · intro hcreated huser
    obtain ⟨m, hm⟩ := htracks.refined hcreated
    have hmode : m.mode = .user := by rw [← hm.mode, htracks.mode, huser]
    have hshows := hm.shows
    rw [← htracks.color, hm.getColor]
    simpa only [LedModel.shown, hmode] using hshows

/-- `{"color":[200,0,0]}` -/
def redText : List UInt8 :=
  [0x7b, 0x22, 0x63, 0x6f, 0x6c, 0x6f, 0x72, 0x22, 0x3a, 0x5b, 0x32, 0x30, 0x30, 0x2c, 0x30, 0x2c,
    0x30, 0x5d, 0x7d]

def redJson : JsonLibrary :=
  referenceJson
    [(redText, .object [("color", .array [.numberInteger 200, .numberInteger 0, .numberInteger 0])])]

def redPost : CoAPMessage :=
  { code := .post
    pOptionsList := [⟨12, 1, [50]⟩]
    payload := some redText
    payloadLength := 19
    pResource := some 5 }

def plainMemory : LedMemory :=
  ⟨⟨.highSpeed, .channel0, 0⟩, ⟨.highSpeed, .channel1, 0⟩, ⟨.highSpeed, .channel2, 0⟩⟩

def ledGet : CoAPMessage := { code := .get, pResource := some 5 }

theorem red_dumped : redJson.dump (LEDResource.report ⟨200, 0, 0⟩ .user) ≠ [] ∧
    (redJson.dump (LEDResource.report ⟨200, 0, 0⟩ .user)).length ≤ 65535 := by decide +kernel

theorem node_reports_history_red :
    ∃ s t answered, Initial ⟨1, 2, 4, 8⟩ twoResources plainMemory s ∧
      (system redJson ⟨1, 2, 4, 8⟩ twoResources plainMemory).run s
        [.iterate true, .request referenceLibrary redPost {}, .iterate true] = some t ∧
      t.serve redJson referenceLibrary ledGet {} =
        .ok (t, ⟨[.led], LobaroCoapMessage.message answered, .ok⟩) ∧
      answered.getPayload = (.ok, some (redJson.dump (LEDResource.report ⟨200, 0, 0⟩ .user))) ∧
      Shows t.loop.statusLED ⟨200, 0, 0⟩ := by
  have hs : Initial ⟨1, 2, 4, 8⟩ twoResources plainMemory ⟨_, _, .idle, none⟩ :=
    ⟨fun _ => ⟨15, true, none⟩, 1, _, rfl, rfl, rfl⟩
  obtain ⟨hget, hshows⟩ := node_reports_history redJson twoResources ⟨1, 2, 4, 8⟩ plainMemory _ _
    [.iterate true, .request referenceLibrary redPost {}, .iterate true] hs rfl
  obtain ⟨answered, hserve, hconveys, _⟩ :=
    hget referenceLibrary ledGet {} (by decide) rfl (by decide)
  obtain ⟨hnonempty, hshort⟩ := red_dumped
  exact ⟨_, _, answered, hs, rfl, hserve,
    hconveys.payload ⟨reference_copiesPayloads, hnonempty, hshort, rfl⟩, hshows (by decide) rfl⟩

end Node

end IoTNode
