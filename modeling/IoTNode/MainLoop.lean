import IoTNode.Answers
import IoTNode.Foundations.Histories
import IoTNode.Foundations.Systems
import IoTNode.JsonReference
import IoTNode.LedRequests

set_option autoImplicit false

namespace IoTNode

open Coap Foundations Lobaro LEDResource

structure MainLoop where
  level : ℤ := 0
  lastConnectedState : Bool := false
  statusLED : LEDResource := {}
deriving DecidableEq, Repr

namespace MainLoop

def iteration (s : MainLoop) (connected : Bool) : MainLoop :=
  if connected then
    if s.lastConnectedState ≠ connected then
      { s with
        lastConnectedState := connected
        statusLED := s.statusLED.setStatusColor 0 15 0 250 }
    else { s with statusLED := s.statusLED.setMode .user }
  else
    let level : ℤ := if s.level ≠ 0 then 0 else 1
    { s with
      level := level
      statusLED := (s.statusLED.setMode .showStatus).setStatusColor (UInt8.ofInt (level * 30)) 0 0 100 }

-- the first `SetMode(User)` on a connection that the loop has signalled
def firstUser (s : MainLoop) : MainLoop := { s with lastConnectedState := true }.iteration true

inductive LoopAction
  | iterate
  | post (lib : LobaroLibrary) (request response : LobaroCoapMessage)

variable (json : JsonLibrary)

def post (s : MainLoop) (lib : LobaroLibrary) (request response : LobaroCoapMessage) :
    Option MainLoop :=
  match handleRequest lib json s.statusLED request response with
  | .error _ => none
  | .ok (led, response, _) =>
    if request.getCode = .post ∧ response.getCode = .changed then some { s with statusLED := led }
    else none

def system : System MainLoop LoopAction where
  init s := ∃ before : MainLoop, s = before.firstUser
  step s
    | .iterate => some (s.iteration true)
    | .post lib request response => s.post json lib request response

def names : LoopAction → Option Mode
  | .iterate => none
  | .post lib request _ => (postedInput lib json request).bind readMode

def lastNamed (actions : List LoopAction) : Mode := latest (names json) .user actions

def body (format : CoapContentType) (value : Json) : Payload :=
  if format = .applicationJson then json.dump value else json.toCbor value

/-- Every GET is answered 2.05 with the encoding of one value, whose member `mode` names the
mode. -/
def Reports (led : LEDResource) (m : Mode) : Prop :=
  (∀ lib request response, request.getCode = .get → Supported (answerFormat lib request) →
    ∃ answered, handleRequest lib json led request response = .ok (led, answered, .ok) ∧
      Conveys lib (·.addOption lib) response (answerFormat lib request)
        (body json (answerFormat lib request) led.output) .content answered) ∧
    led.output.find "mode" = some (.string (modeName m))

theorem handleRequest_get {lib : LobaroLibrary} {led : LEDResource}
    {request response : LobaroCoapMessage} (hg : request.getCode = .get)
    (hs : Supported (answerFormat lib request)) :
    handleRequest lib json led request response =
      .ok (led, answer lib (·.addOption lib) response (answerFormat lib request)
        (body json (answerFormat lib request) led.output) .content) := by
  have hpost : request.getCode ≠ .post := by
    rw [hg]
    decide
  rw [handleRequest_eq, readInput, if_neg hpost]
  rcases hs with hs | hs <;> rw [hs] <;> rfl

theorem output_mode (led : LEDResource) :
    led.output.find "mode" = some (.string (modeName led.mode)) := by
  unfold output
  rw [Json.find_setMember, if_pos rfl]

theorem modeName_inj {m n : Mode} (h : modeName m = modeName n) : m = n := by
  cases m <;> cases n <;> first | rfl | exact absurd h (by decide)

theorem reports_iff (led : LEDResource) (m : Mode) : Reports json led m ↔ led.mode = m := by
  constructor
  · rintro ⟨_, h⟩
    rw [output_mode, Option.some.injEq, Json.string.injEq] at h
    exact modeName_inj h
  · rintro rfl
    exact ⟨fun _ _ _ hg hs => ⟨_, handleRequest_get json hg hs, answer_conveys⟩, output_mode led⟩

theorem iteration_mode {s : MainLoop} (h : s.lastConnectedState = true) :
    (s.iteration true).lastConnectedState = true ∧ (s.iteration true).statusLED.mode = .user := by
  unfold iteration
  rw [if_pos rfl, if_neg (by simp [h])]
  exact ⟨h, setMode_mode s.statusLED .user⟩

theorem post_mode {s t : MainLoop} {lib : LobaroLibrary} {request response : LobaroCoapMessage}
    (h : s.post json lib request response = some t) :
    t.lastConnectedState = s.lastConnectedState ∧
      t.statusLED.mode = (names json (.post lib request response)).getD s.statusLED.mode := by
  unfold post at h
  split at h
  · cases h
  · rename_i led response' result hr
    obtain ⟨⟨_, hcode⟩, ht⟩ := Option.ite_none_right_eq_some.mp h
    obtain rfl := Option.some.inj ht
    refine ⟨rfl, ?_⟩
    obtain ⟨_, posted, color, hp, _, rfl⟩ := handleRequest_changed lib json hr hcode
    dsimp only [names]
    rw [hp, Option.bind_some, applyMembers_mode]

theorem run_connected {s t : MainLoop} {actions : List LoopAction}
    (hs : s.lastConnectedState = true) (h : (system json).run s actions = some t) :
    t.lastConnectedState = true := by
  refine (system json).run_invariant (I := fun s => s.lastConnectedState = true) ?_ hs
    ((system json).along_true s actions) h
  intro s a t hs _ ht
  cases a with
  | iterate =>
    obtain rfl := Option.some.inj ht
    exact (iteration_mode hs).1
  | post lib request response => rw [(post_mode json ht).1, hs]

theorem lastNamed_snoc (actions : List LoopAction) (a : LoopAction) :
    lastNamed json (actions ++ [a]) = (names json a).getD (lastNamed json actions) :=
  latest_snoc (names json) .user actions a

def ModeKept (s : MainLoop) (actions : List LoopAction) : Prop :=
  ∀ before after t, actions = before ++ after → (system json).run s.firstUser before = some t →
    Reports json t.statusLED (lastNamed json before)

def IteratesForUser (s : MainLoop) (actions : List LoopAction) : Prop :=
  ∀ before after t, actions = before ++ .iterate :: after →
    (system json).run s.firstUser before = some t → lastNamed json before = .user

theorem mode_lastNamed {s t : MainLoop} {actions : List LoopAction}
    (hi : IteratesForUser json s actions) (hr : (system json).run s.firstUser actions = some t) :
    t.statusLED.mode = lastNamed json actions := by
  induction actions using List.reverseRecOn generalizing t with
  | nil =>
    obtain rfl := Option.some.inj hr
    exact (iteration_mode rfl).2
  | append_singleton actions a ih =>
    obtain ⟨u, hu, ht⟩ := (system json).run_snoc_some.mp hr
    have hmode := ih (fun before after v he => hi before (after ++ [a]) v (by simp [he])) hu
    rw [lastNamed_snoc]
    cases a with
    | iterate =>
      obtain rfl := Option.some.inj ht
      rw [(iteration_mode (run_connected json (iteration_mode rfl).1 hu)).2]
      exact (hi actions [] u rfl hu).symm
    | post lib request response => rw [(post_mode json ht).2, hmode]

theorem modeKept_iff (s : MainLoop) (actions : List LoopAction) :
    ModeKept json s actions ↔ IteratesForUser json s actions := by
  constructor
  · intro h before after t he hr
    have hnext : (system json).run s.firstUser (before ++ [.iterate]) = some (t.iteration true) :=
      (system json).run_snoc_some.mpr ⟨t, hr, rfl⟩
    have hrep := h (before ++ [.iterate]) after _ (by simp [he]) hnext
    have hmode := (reports_iff json _ _).mp hrep
    rw [(iteration_mode (run_connected json (iteration_mode rfl).1 hr)).2, lastNamed_snoc] at hmode
    exact hmode.symm
  · intro h before after t he hr
    rw [reports_iff]
    apply mode_lastNamed json _ hr
    intro b a u hb
    exact h b (a ++ after) u (by rw [he, hb, List.append_assoc, List.cons_append])

/-- `{"mode":"status"}` -/
def statusModeText : List UInt8 :=
  [0x7b, 0x22, 0x6d, 0x6f, 0x64, 0x65, 0x22, 0x3a, 0x22, 0x73, 0x74, 0x61, 0x74, 0x75, 0x73, 0x22,
    0x7d]

def statusModeJson : JsonLibrary :=
  referenceJson [(statusModeText, .object [("mode", .string "status")])]

def statusModePost : LobaroCoapMessage :=
  { message :=
      { code := .post
        pOptionsList := [⟨12, 1, [50]⟩]
        payload := some statusModeText
        payloadLength := 17 } }

theorem modeKept_counterexample :
    ¬ ModeKept statusModeJson {} [.post referenceLibrary statusModePost {}, .iterate] := by
  intro h
  have hrep := h _ [] _ (List.append_nil _).symm rfl
  have hmode := (reports_iff statusModeJson _ _).mp hrep
  exact absurd hmode (by decide)

end MainLoop

end IoTNode
