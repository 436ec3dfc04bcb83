import IoTNode.CompleteResponses
import IoTNode.Resources

set_option autoImplicit false

namespace IoTNode

open Coap Lobaro

inductive NegotiatingCall
  | wifiRequest (ipinfo : WifiResource.IpInfo) (request : LobaroCoapMessage)
  | ledRequest (led : LEDResource) (request : LobaroCoapMessage)
  | switchRequest (state : SwitchResource.State) (request : LobaroCoapMessage)
  | switchNotify (state : SwitchResource.State) (observer : LobaroCoapObserver)
deriving DecidableEq, Repr

namespace NegotiatingCall

def optionsList : NegotiatingCall → List CoAPOption
  | wifiRequest _ request => request.message.pOptionsList
  | ledRequest _ request => request.message.pOptionsList
  | switchRequest _ request => request.message.pOptionsList
  | switchNotify _ observer => observer.observer.pOptList

def formats : NegotiatingCall → List CoapContentType
  | wifiRequest _ _ => [.textPlain, .applicationJson, .applicationCbor]
  | _ => [.applicationJson, .applicationCbor]

def IsWifi : NegotiatingCall → Prop
  | wifiRequest _ _ => True
  | _ => False

instance : (call : NegotiatingCall) → Decidable call.IsWifi
  | wifiRequest _ _ => inferInstanceAs (Decidable True)
  | ledRequest _ _ => inferInstanceAs (Decidable False)
  | switchRequest _ _ => inferInstanceAs (Decidable False)
  | switchNotify _ _ => inferInstanceAs (Decidable False)

variable (lib : LobaroLibrary) (json : JsonLibrary) (call : NegotiatingCall)

def outcome (response : LobaroCoapMessage) : Except Abort (LobaroCoapMessage × CoapResult) :=
  match call with
  | wifiRequest ipinfo request => WifiResource.handleRequest lib json (some ipinfo) request response
  | ledRequest led request => (LEDResource.handleRequest lib json led request response).map Prod.snd
  | switchRequest state request => SwitchResource.handleRequest lib json state request response
  | switchNotify state observer => SwitchResource.handleNotify lib json state observer response

def Processed : Prop :=
  match call with
  | ledRequest led request => ∃ input, LEDResource.readInput lib json led request = .ok (some input)
  | _ => True

def Unsupported : Prop :=
  ∃ value, decodedUInt lib call.optionsList CoapOptionValue.accept.number = some value ∧
    value.toInt32 ∉ call.formats

/-- 4.02 and Error, with nothing added to the response. -/
def Rejects (response : LobaroCoapMessage) : Prop :=
  ∃ ended, call.outcome lib json response = .ok ended ∧
    ended.1.message = { response.message with code := .badOption } ∧
    ended.1.calls = response.calls ∧ ended.2 = .error ∧
    (Registry.dispatched call ended).returned = .error

section Outcome

variable {lib json call}

theorem negotiated_decoded {optionsList : List CoAPOption} {value : UInt32}
    (h : decodedUInt lib optionsList CoapOptionValue.accept.number = some value)
    (default : CoapContentType) : negotiated lib optionsList default = value.toInt32 := by
  unfold negotiated
  rw [h]

theorem respondWith_none {store : LobaroCoapMessage → ICoapOption → LobaroCoapMessage × CoapResult}
    {encode : CoapContentType → Option Payload} {format : CoapContentType} {code : CoapMessageCode}
    {response : LobaroCoapMessage} (h : encode format = none) :
    respondWith lib store encode format code response = response.setCode .badOption := by
  unfold respondWith
  rw [h]

theorem wifi_encode_none {ipinfo : WifiResource.IpInfo} {format : CoapContentType}
    (h : format ∉ [CoapContentType.textPlain, .applicationJson, .applicationCbor]) :
    WifiResource.encode json ipinfo format = none := by
  simp only [List.mem_cons, List.not_mem_nil, or_false, not_or] at h
  unfold WifiResource.encode
  rw [if_neg h.1, if_neg h.2.1, if_neg h.2.2]

theorem switch_encode_none {state : SwitchResource.State} {format : CoapContentType}
    (h : format ∉ [CoapContentType.applicationJson, .applicationCbor]) :
    SwitchResource.encode json state format = none := by
  simp only [List.mem_cons, List.not_mem_nil, or_false, not_or] at h
  unfold SwitchResource.encode
  rw [if_neg h.1, if_neg h.2]

theorem led_unsupported {format : CoapContentType}
    (h : format ∉ [CoapContentType.applicationJson, .applicationCbor]) :
    ¬ LEDResource.Supported format := by
  simp only [List.mem_cons, List.not_mem_nil, or_false] at h
  exact h

theorem outcome_unsupported (hu : call.Unsupported lib) (hp : call.Processed lib json)
    (response : LobaroCoapMessage) :
    call.outcome lib json response =
      .ok ((response.setCode .badOption).1, if call.IsWifi then .error else .ok) := by
  obtain ⟨value, hvalue, hformat⟩ := hu
  cases call with
  | wifiRequest ipinfo request =>
    have hn : negotiated lib request.message.pOptionsList .textPlain = value.toInt32 :=
      negotiated_decoded hvalue _
    change WifiResource.handleRequest lib json (some ipinfo) request response = _
    rw [WifiResource.handleRequest_eq]
    dsimp only
    rw [hn, wifi_encode_none hformat]
    rfl
  | ledRequest led request =>
    have hn : LEDResource.answerFormat lib request = value.toInt32 := negotiated_decoded hvalue _
    obtain ⟨input, hinput⟩ := hp
    change (LEDResource.handleRequest lib json led request response).map Prod.snd = _
    rw [LEDResource.handleRequest_eq, hinput, hn]
    exact congrArg Except.ok (LEDResource.respond_unsupported lib json (led_unsupported hformat))
  | switchRequest state request =>
    have hn : negotiated lib request.message.pOptionsList .applicationJson = value.toInt32 :=
      negotiated_decoded hvalue _
    change SwitchResource.handleRequest lib json state request response = _
    rw [SwitchResource.handleRequest_eq, hn, respondWith_none (switch_encode_none hformat)]
    rfl
  | switchNotify state observer =>
    have hn : negotiated lib observer.observer.pOptList .applicationJson = value.toInt32 :=
      negotiated_decoded hvalue _
    change SwitchResource.handleNotify lib json state observer response = _
    rw [SwitchResource.handleNotify_eq, hn, respondWith_none (switch_encode_none hformat)]
    rfl

end Outcome

theorem rejects_iff (response : LobaroCoapMessage) (hu : call.Unsupported lib)
    (hp : call.Processed lib json) : call.Rejects lib json response ↔ call.IsWifi := by
  have houtcome := outcome_unsupported hu hp response
  constructor
  · rintro ⟨ended, hended, _, _, herror, _⟩
    rw [houtcome, Except.ok.injEq] at hended
    by_contra hw
    rw [← hended, if_neg hw] at herror
    cases herror
  · intro hw
    refine ⟨_, houtcome, rfl, rfl, ?_, ?_⟩
    · exact if_pos hw
    · dsimp only [Registry.dispatched]
      rw [if_pos hw]
      rfl

def textGet : LobaroCoapMessage := { message := { code := .get, pOptionsList := [⟨17, 1, [99]⟩] } }

theorem rejects_iff_wifi :
    (wifiRequest ⟨1, 2, 3⟩ textGet).Rejects referenceLibrary (referenceJson []) {} :=
  (rejects_iff referenceLibrary (referenceJson []) (wifiRequest ⟨1, 2, 3⟩ textGet) {}
    ⟨99, rfl, by decide⟩ trivial).mpr trivial

theorem rejects_counterexample :
    ¬ (switchRequest .idle textGet).Rejects referenceLibrary (referenceJson []) {} := by
  rintro ⟨ended, hended, _, _, herror, _⟩
  obtain rfl := Except.ok.inj hended
  exact absurd herror (by decide)

end NegotiatingCall

end IoTNode
