import IoTNode.NodeReports

set_option autoImplicit false

namespace IoTNode

open Coap Foundations Lobaro Startup LedRefinement

namespace LEDResource

theorem memberCalls_twice (m : LedModel) (color : Option Rgb) (mode : Option Mode) :
    (memberCalls color mode).foldl LedModel.step ((memberCalls color mode).foldl LedModel.step m) =
      (memberCalls color mode).foldl LedModel.step m := by
  cases color with
  | none =>
    cases mode with
    | none => rfl
    | some mode =>
      simp only [memberCalls, Option.map_none, Option.toList_none, Option.map_some,
        Option.toList_some, List.nil_append, List.foldl_cons, List.foldl_nil, LedModel.step]
      split_ifs <;> simp_all
  | some c =>
    cases mode with
    | none => rfl
    | some mode =>
      simp only [memberCalls, Option.map_some, Option.toList_some, List.cons_append,
        List.nil_append, List.foldl_cons, List.foldl_nil, LedModel.step]
      split_ifs <;> simp_all

theorem calls_refine {led : LEDResource} {m : LedModel} (h : Refines led m)
    (calls : List LedCall) :
    Refines (calls.foldl LedCall.apply led) (calls.foldl LedModel.step m) := by
  induction calls generalizing led m with
  | nil => exact h
  | cons call calls ih => exact ih (apply_refines h call)

structure SameLight (led led' : LEDResource) : Prop where
  color : led'.getColor = led.getColor
  mode : led'.mode = led.mode
  red : led'.duty led'.ledcRedChannel = led.duty led.ledcRedChannel
  green : led'.duty led'.ledcGreenChannel = led.duty led.ledcGreenChannel
  blue : led'.duty led'.ledcBlueChannel = led.duty led.ledcBlueChannel

theorem sameLight_refl (led : LEDResource) : SameLight led led := ⟨rfl, rfl, rfl, rfl, rfl⟩

theorem sameLight_of_refines {led led' : LEDResource} {m : LedModel} (h : Refines led m)
    (h' : Refines led' m) : SameLight led led' where
  color := h'.getColor.trans h.getColor.symm
  mode := h'.mode.trans h.mode.symm
  red := h'.dutyRed.trans h.dutyRed.symm
  green := h'.dutyGreen.trans h.dutyGreen.symm
  blue := h'.dutyBlue.trans h.dutyBlue.symm

theorem applyMembers_twice {led : LEDResource} (h : MainLoop.Refined led) (color : Option Rgb)
    (mode : Option Mode) :
    SameLight (led.applyMembers color mode)
      ((led.applyMembers color mode).applyMembers color mode) := by
  obtain ⟨m, hm⟩ := h
  have honce := calls_refine hm (memberCalls color mode)
  have htwice := calls_refine honce (memberCalls color mode)
  rw [memberCalls_twice] at htwice
  rw [applyMembers_calls, applyMembers_calls]
  exact sameLight_of_refines honce htwice

section Answers

variable {lib : LobaroLibrary} {json : JsonLibrary} {led led' : LEDResource}
  {request response : LobaroCoapMessage}

theorem respond_congr (hc : led'.getColor = led.getColor) (hm : led'.mode = led.mode)
    (accept : UInt32) (code : CoapMessageCode) (response : LobaroCoapMessage) :
    respond lib json led' accept code response = respond lib json led accept code response := by
  unfold respond
  rw [output_report, output_report, hc, hm]

theorem readColor_error {input : Json} {abort : Abort} (h : readColor json input = .error abort) :
    abort = .exception := by
  by_contra hne
  have hread : ¬ ∃ color, readColor json input = .ok color := by
    rintro ⟨color, hcolor⟩
    rw [hcolor] at h
    cases h
  rw [readColor_ok_iff] at hread
  unfold ColorReadable at hread
  push Not at hread
  obtain ⟨r, g, b, hfind, hcasts⟩ := hread
  rw [readColor_throws hfind (fun hall => hcasts hall.1 hall.2.1 hall.2.2)] at h
  exact hne (Except.error.inj h).symm

/-- No `assert` of the handler fails: what it does not answer, the JSON library has thrown on. -/
theorem handleRequest_error {abort : Abort}
    (h : handleRequest lib json led request response = .error abort) : abort = .exception := by
  rw [handleRequest_eq] at h
  cases hbytes : parsedBytes lib request with
  | none =>
    have hread : readInput lib json led request = .ok none ∨ _ := readInput_unparsed lib json hbytes
    rcases hread with hr | hr <;> rw [hr] at h <;> cases h
  | some bytes =>
    rw [readInput_parsed lib json hbytes] at h
    cases hparse : json.parse bytes with
    | none =>
      rw [hparse] at h
      exact (Except.error.inj h).symm
    | some input =>
      rw [hparse] at h
      dsimp only at h
      cases hcolor : readColor json input with
      | ok color =>
        rw [hcolor] at h
        cases h
      | error thrown =>
        rw [hcolor] at h
        obtain rfl := Except.error.inj h
        exact readColor_error hcolor

theorem handleRequest_twice (h : MainLoop.Refined led)
    {outcome : LobaroCoapMessage × CoapResult}
    (hr : handleRequest lib json led request response = .ok (led', outcome)) :
    ∃ led'', handleRequest lib json led' request response = .ok (led'', outcome) ∧
      SameLight led' led'' := by
  rcases handleRequest_ok lib json hr with ⟨rfl, _⟩ | ⟨rfl, _⟩ | ⟨posted, color, hp, hc, rfl, ho⟩
  · exact ⟨led', hr, sameLight_refl led'⟩
  · exact ⟨led', hr, sameLight_refl led'⟩
  · have hsame := applyMembers_twice h color (readMode posted)
    refine ⟨_, ?_, hsame⟩
    rw [handleRequest_posted lib json hp hc, respond_congr hsame.color hsame.mode, ← ho]

end Answers

end LEDResource

namespace Node

variable (json : JsonLibrary) (storage : Storage)

/-- A POST to the LED whose body `json::parse` or the casts to `uint8_t` reject. -/
def Fatal : NodeAction → Prop
  | .request lib request _ =>
    storage.owner request.pResource = some .led ∧
      ∃ bytes, LEDResource.parsedBytes lib { message := request } = some bytes ∧
        ∀ input, json.parse bytes = some input → ¬ LEDResource.ColorReadable json input
  | _ => False

section Runs

variable {json storage} {bits : ResOpt} {memory : LedMemory} {s t : Node}
  {actions : List NodeAction}

theorem fatal_request_iff {lib : LobaroLibrary} {req response : CoAPMessage}
    (ho : storage.owner req.pResource = some .led) :
    Fatal json storage (.request lib req response) ↔ ∀ outcome,
      LEDResource.handleRequest lib json s.loop.statusLED { message := req }
        { message := response } ≠ .ok outcome := by
  rw [← not_exists, LEDResource.handleRequest_ok_iff]
  constructor
  · rintro ⟨_, bytes, hbytes, hnone⟩ h
    obtain ⟨input, hparse, hread⟩ := h bytes hbytes
    exact hnone input hparse hread
  · intro h
    refine ⟨ho, ?_⟩
    by_contra hn
    apply h
    intro bytes hbytes
    by_contra hnone
    exact hn ⟨bytes, hbytes, fun input hparse hread => hnone ⟨input, hparse, hread⟩⟩

theorem Tracks.serve_error (h : Tracks json storage actions s) (lib : LobaroLibrary)
    (req response : CoAPMessage) (abort : Abort) :
    s.serve json lib req response = .error abort ↔
      abort = .exception ∧ Fatal json storage (.request lib req response) := by
  by_cases ho : storage.owner req.pResource = some .led
  · have hfatal : Fatal json storage (.request lib req response) ↔ _ :=
      fatal_request_iff (s := s) ho
    rw [serve_led h.dispatches ho, hfatal]
    cases hr : LEDResource.handleRequest lib json s.loop.statusLED { message := req }
        { message := response } with
    | ok outcome =>
      refine iff_of_false (fun he => (by cases he)) (fun hn => hn.2 outcome rfl)
    | error thrown =>
      obtain rfl := LEDResource.handleRequest_error hr
      constructor
      · intro he
        exact ⟨(Except.error.inj he).symm, fun outcome ho => (by cases ho)⟩
      · rintro ⟨rfl, _⟩
        rfl
  · obtain ⟨dispatch, hs⟩ : ∃ d, s.serve json lib req response = .ok (s, d) :=
      serve_other h.dispatches ho
    rw [hs]
    exact iff_of_false (fun he => (by cases he)) (fun hf => ho hf.2.1)

theorem Tracks.step_iff (h : Tracks json storage actions s) (a : NodeAction) :
    (∃ t, (system json bits storage memory).step s a = some t) ↔ ¬ Fatal json storage a := by
  cases a with
  | iterate connected => exact iff_of_true ⟨_, rfl⟩ id
  | switchTask state => exact iff_of_true ⟨_, rfl⟩ id
  | address ipInfo => exact iff_of_true ⟨_, rfl⟩ id
  | request lib req response =>
    have herror := h.serve_error lib req response
    dsimp only [system]
    cases hs : s.serve json lib req response with
    | ok outcome =>
      refine iff_of_true ⟨_, rfl⟩ (fun hf => ?_)
      rw [(herror .exception).mpr ⟨rfl, hf⟩] at hs
      cases hs
    | error abort =>
      exact iff_of_false (fun ⟨t, ht⟩ => (by cases ht)) (not_not.mpr ((herror abort).mp hs).2)

/-- A request that is delivered twice is answered twice in the same way, and leaves the node as the
first delivery did, except that the fades may be started again. -/
theorem request_repeats (bits : ResOpt) (memory : LedMemory) (s t u : Node)
    (actions : List NodeAction) (hs : Initial bits storage memory s)
    (ht : (system json bits storage memory).run s actions = some t)
    (lib : LobaroLibrary) (request response : CoAPMessage) (dispatch : Dispatch App)
    (hu : t.serve json lib request response = .ok (u, dispatch)) :
    ∃ v, u.serve json lib request response = .ok (v, dispatch) ∧
      LEDResource.SameLight u.loop.statusLED v.loop.statusLED ∧
      v = u.withLED v.loop.statusLED := by
  have htracks : Tracks json storage actions t := tracks_run hs ht
  by_cases ho : storage.owner request.pResource = some .led
  · rw [serve_led htracks.dispatches ho] at hu
    cases hr : LEDResource.handleRequest lib json t.loop.statusLED { message := request }
        { message := response } with
    | error abort => rw [hr] at hu; cases hu
    | ok outcome =>
      rw [hr] at hu
      obtain ⟨rfl, hdispatch⟩ := Prod.mk.inj (Except.ok.inj hu)
      obtain ⟨led, hagain, hsame⟩ :=
        LEDResource.handleRequest_twice (htracks.refined (led_of_owner ho)) hr
      refine ⟨(t.withLED outcome.1).withLED led, ?_, hsame, rfl⟩
      have hafter : Dispatches storage (t.withLED outcome.1).registry := htracks.dispatches
      have hled : (t.withLED outcome.1).loop.statusLED = outcome.1 := rfl
      rw [serve_led hafter ho, hled, hagain, ← hdispatch]
      rfl
  · obtain ⟨other, hother⟩ : ∃ d, t.serve json lib request response = .ok (t, d) :=
      serve_other htracks.dispatches ho
    obtain ⟨rfl, rfl⟩ := Prod.mk.inj (Except.ok.inj (hother.symm.trans hu))
    exact ⟨t, hu, LEDResource.sameLight_refl _, rfl⟩

theorem request_repeats_red :
    ∃ s u v dispatch, Initial ⟨1, 2, 4, 8⟩ twoResources plainMemory s ∧
      s.serve redJson referenceLibrary redPost {} = .ok (u, dispatch) ∧
      u.serve redJson referenceLibrary redPost {} = .ok (v, dispatch) ∧
      LEDResource.SameLight u.loop.statusLED v.loop.statusLED := by
  have hs : Initial ⟨1, 2, 4, 8⟩ twoResources plainMemory ⟨_, _, .idle, none⟩ :=
    ⟨fun _ => ⟨15, true, none⟩, 1, _, rfl, rfl, rfl⟩
  obtain ⟨v, hv, hsame, _⟩ := request_repeats ⟨1, 2, 4, 8⟩ plainMemory _ _ _ [] hs rfl
    referenceLibrary redPost {} _ (rfl : Node.serve redJson _ _ _ _ = _)
  exact ⟨_, _, v, _, hs, rfl, hv, hsame⟩

/-- Posting the JSON text that reported the LED at some time brings back what it reported. -/
theorem report_restores (bits : ResOpt) (memory : LedMemory) (s t u : Node)
    (before after : List NodeAction) (hs : Initial bits storage memory s)
    (ht : (system json bits storage memory).run s before = some t)
    (hu : (system json bits storage memory).run t after = some u)
    (hcast : ExactCasts json)
    (hdump : json.parse (json.dump t.loop.statusLED.output) = some t.loop.statusLED.output)
    (lib : LobaroLibrary) (request response : CoAPMessage)
    (ho : storage.owner request.pResource = some .led)
    (hbody : LEDResource.parsedBytes lib { message := request } =
      some (json.dump (LEDResource.report (lastColor json storage before)
        (lastMode json storage before)))) :
    ∃ v dispatch, u.serve json lib request response = .ok (v, dispatch) ∧
      (LEDResource.Supported (LEDResource.answerFormat lib { message := request }) →
        dispatch.response.code = .changed) ∧
      v.loop.statusLED.getColor = lastColor json storage before ∧
      v.loop.statusLED.mode = lastMode json storage before ∧
      (lastMode json storage before = .user →
        Shows v.loop.statusLED (lastColor json storage before)) := by
  have htracks : Tracks json storage before t := tracks_run hs ht
  have hrun : (system json bits storage memory).run s (before ++ after) = some u :=
    (system json bits storage memory).run_append_some.mpr ⟨t, ht, hu⟩
  have hlater : Tracks json storage (before ++ after) u := tracks_run hs hrun
  rw [← htracks.color, ← htracks.mode, ← LEDResource.output_report] at hbody
  rw [← htracks.color, ← htracks.mode]
  have hposted : LEDResource.postedInput lib json { message := request } =
      some t.loop.statusLED.output := by
    rw [LEDResource.postedInput_eq, hbody]
    exact hdump
  have hcolor := LEDResource.readColor_names hcast (LEDResource.output_color t.loop.statusLED)
    (LEDResource.output_names t.loop.statusLED)
  have hmode : LEDResource.readMode t.loop.statusLED.output = some t.loop.statusLED.mode :=
    LEDResource.readMode_names (MainLoop.output_mode t.loop.statusLED)
  let led := u.loop.statusLED.applyMembers (some t.loop.statusLED.getColor)
    (some t.loop.statusLED.mode)
  have hled : led.getColor = t.loop.statusLED.getColor := LEDResource.applyMembers_getColor _ _
  have hledMode : led.mode = t.loop.statusLED.mode := by
    rw [LEDResource.applyMembers_mode, Option.getD_some]
  have hserve : u.serve json lib request response = .ok (u.withLED led, Registry.dispatched .led
      (LEDResource.respond lib json led
        (LEDResource.answerFormat lib { message := request }).toUInt32 .changed
        { message := response })) := by
    rw [serve_led hlater.dispatches ho, LEDResource.handleRequest_posted lib json hposted hcolor,
      hmode]
    rfl
  refine ⟨_, _, hserve, ?_, hled, hledMode, ?_⟩
  · intro hsupported
    exact LEDResource.respond_code lib json hsupported
  · intro huser
    obtain ⟨m, hm⟩ := (hlater.refined (led_of_owner ho)).applyMembers
      (some t.loop.statusLED.getColor) (some t.loop.statusLED.mode)
    have hshows : Shows led m.shown := hm.shows
    have hmuser : m.mode = .user := by rw [← hm.mode, hledMode, huser]
    change Shows led _
    rw [← hled, hm.getColor]
    simpa only [LedModel.shown, hmuser] using hshows

def initialRequest : CoAPMessage :=
  { (LEDResource.initialPost 50 LEDResource.initialText).message with pResource := some 5 }

theorem report_restores_initial :
    ∃ s u v dispatch, Initial ⟨1, 2, 4, 8⟩ twoResources plainMemory s ∧
      (system LEDResource.initialJson ⟨1, 2, 4, 8⟩ twoResources plainMemory).run s
        [.iterate true, .iterate true] = some u ∧ u.loop.statusLED.mode = .user ∧
      u.serve LEDResource.initialJson referenceLibrary initialRequest {} = .ok (v, dispatch) ∧
      v.loop.statusLED.mode = .showStatus := by
  have hs : Initial ⟨1, 2, 4, 8⟩ twoResources plainMemory ⟨_, _, .idle, none⟩ :=
    ⟨fun _ => ⟨15, true, none⟩, 1, _, rfl, rfl, rfl⟩
  have hdump : LEDResource.initialJson.parse (LEDResource.initialJson.dump
      (LEDResource.output {})) = some (LEDResource.output {}) := by
    rw [LEDResource.initialJson_dump]
    rfl
  have hbody : LEDResource.parsedBytes referenceLibrary { message := initialRequest } =
      some (LEDResource.initialJson.dump (LEDResource.output {})) := by
    rw [LEDResource.initialJson_dump]
    rfl
  obtain ⟨v, dispatch, hv, _, _, hmode, _⟩ := report_restores ⟨1, 2, 4, 8⟩ plainMemory _ _ _ []
    [.iterate true, .iterate true] hs rfl rfl (referenceJson_exactCasts _) hdump referenceLibrary
    initialRequest {} rfl hbody
  exact ⟨_, _, v, dispatch, hs, rfl, rfl, hv, hmode⟩

end Runs

end Node

end IoTNode
