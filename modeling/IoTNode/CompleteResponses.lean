import IoTNode.Answers
import IoTNode.JsonReference
import IoTNode.LedRequests
import IoTNode.Handlers

set_option autoImplicit false

namespace IoTNode

open Coap Lobaro

/-- If the outcome is OK with a 2.xx code, the handler's calls stored a Content-Format and the
payload in that format, and both calls reported OK. -/
def CompleteReport (encode : CoapContentType → Option Payload) (earlier : List MessageCall)
    (outcome : LobaroCoapMessage × CoapResult) : Prop :=
  outcome.2 = .ok → outcome.1.getCode.Success →
    ∃ format body, encode format = some body ∧
      outcome.1.calls = earlier ++
        [.storedOption (contentFormatOption format) .ok, .storedPayload body .ok]

def Records (store : LobaroCoapMessage → ICoapOption → LobaroCoapMessage × CoapResult) : Prop :=
  ∀ message option,
    (store message option).1.calls =
      message.calls ++ [.storedOption option (store message option).2]

theorem addOption_records (lib : LobaroLibrary) : Records (·.addOption lib) := fun _ _ => rfl

theorem setOption_records (lib : LobaroLibrary) : Records (·.setOption lib) := fun _ _ => rfl

def Stored (lib : LobaroLibrary)
    (store : LobaroCoapMessage → ICoapOption → LobaroCoapMessage × CoapResult)
    (response : LobaroCoapMessage) (format : CoapContentType) (body : Payload) : Prop :=
  (store response (contentFormatOption format)).2 = .ok ∧
    ((store response (contentFormatOption format)).1.setPayload lib body).2 = .ok

section Answer

variable {lib : LobaroLibrary}
  {store : LobaroCoapMessage → ICoapOption → LobaroCoapMessage × CoapResult}
  {encode : CoapContentType → Option Payload} {response : LobaroCoapMessage}

theorem answer_calls (hs : Records store) (format : CoapContentType) (body : Payload)
    (code : CoapMessageCode) :
    (answer lib store response format body code).1.calls = response.calls ++
      [.storedOption (contentFormatOption format) (store response (contentFormatOption format)).2,
       .storedPayload body
        ((store response (contentFormatOption format)).1.setPayload lib body).2] := by
  change (store response (contentFormatOption format)).1.calls ++ [_] = _
  rw [hs, List.append_assoc]
  rfl

theorem answer_complete_iff (hs : Records store) {format : CoapContentType} {body : Payload}
    {code : CoapMessageCode} (hc : code.Success) (he : encode format = some body) :
    CompleteReport encode response.calls (answer lib store response format body code) ↔
      Stored lib store response format body := by
  unfold CompleteReport Stored
  rw [answer_calls hs]
  constructor
  · intro h
    obtain ⟨f, b, _, hcalls⟩ := h rfl hc
    rw [List.append_cancel_left_eq] at hcalls
    simp only [List.cons.injEq, MessageCall.storedOption.injEq, MessageCall.storedPayload.injEq,
      and_true] at hcalls
    exact ⟨hcalls.1.2, hcalls.2.2⟩
  · rintro ⟨ho, hp⟩ _ _
    exact ⟨format, body, he, by rw [ho, hp]⟩

theorem failure_complete {outcome : LobaroCoapMessage × CoapResult} {earlier : List MessageCall}
    (h : ¬ outcome.1.getCode.Success) : CompleteReport encode earlier outcome :=
  fun _ hs => absurd hs h

theorem content_success : CoapMessageCode.content.Success := by decide

def respondWith (lib : LobaroLibrary)
    (store : LobaroCoapMessage → ICoapOption → LobaroCoapMessage × CoapResult)
    (encode : CoapContentType → Option Payload) (format : CoapContentType)
    (code : CoapMessageCode) (response : LobaroCoapMessage) : LobaroCoapMessage × CoapResult :=
  match encode format with
  | some body => answer lib store response format body code
  | none => response.setCode .badOption

theorem respondWith_complete_iff (hs : Records store) {format : CoapContentType}
    {code : CoapMessageCode} (hc : code.Success) :
    CompleteReport encode response.calls (respondWith lib store encode format code response) ↔
      ∀ body, encode format = some body → Stored lib store response format body := by
  unfold respondWith
  cases he : encode format with
  | none =>
    refine iff_of_true (failure_complete ?_) (fun body hb => by cases hb)
    change ¬ CoapMessageCode.badOption.Success
    decide
  | some body =>
    dsimp only
    rw [answer_complete_iff hs hc he]
    constructor
    · rintro h _ ⟨⟩
      exact h
    · exact fun h => h body rfl

end Answer

def LEDResource.encode (json : JsonLibrary) (led : LEDResource) (format : CoapContentType) :
    Option Payload :=
  if format = .applicationJson then some (json.dump led.output)
  else if format = .applicationCbor then some (json.toCbor led.output)
  else none

def SwitchResource.encode (json : JsonLibrary) (state : SwitchResource.State)
    (format : CoapContentType) : Option Payload :=
  if format = .applicationJson then some (json.dump (output state))
  else if format = .applicationCbor then some (json.toCbor (output state))
  else none

def WifiResource.encode (json : JsonLibrary) (ipinfo : IpInfo) (format : CoapContentType) :
    Option Payload :=
  if format = .textPlain then some (Utils.textBytes (textOutput ipinfo))
  else if format = .applicationJson then some (json.dump (output ipinfo))
  else if format = .applicationCbor then some (json.toCbor (output ipinfo))
  else none

theorem LEDResource.respond_eq (lib : LobaroLibrary) (json : JsonLibrary) (led : LEDResource)
    (format : CoapContentType) (code : CoapMessageCode) (response : LobaroCoapMessage) :
    respond lib json led format.toUInt32 code response =
      respondWith lib (·.addOption lib) (encode json led) format code response := by
  unfold respond respondWith encode
  simp only [CoapContentType.toUInt32_inj]
  split_ifs with hj hc
  · rw [hj]
  · rw [hc]
  · rfl

theorem SwitchResource.respond_eq (lib : LobaroLibrary) (json : JsonLibrary)
    (state : SwitchResource.State) (response : LobaroCoapMessage) (format : CoapContentType) :
    respond lib json state response format =
      respondWith lib (·.setOption lib) (encode json state) format .content response := by
  unfold respond respondWith encode
  split_ifs with hj hc
  · rw [hj]
  · rw [hc]
  · rfl

theorem WifiResource.handleRequest_eq (lib : LobaroLibrary) (json : JsonLibrary)
    (ipInfo : Option IpInfo) (request response : LobaroCoapMessage) :
    handleRequest lib json ipInfo request response = .ok (
      match ipInfo with
      | none => (((response.setCode .internalServerError).1.setPayload lib
          (Utils.textBytes "failed to get ip address information")).1, .ok)
      | some ipinfo =>
        let format := negotiated lib request.message.pOptionsList .textPlain
        match encode json ipinfo format with
        | some body => answer lib (·.addOption lib) response format body .content
        | none => ((response.setCode .badOption).1, .error)) := by
  unfold handleRequest LobaroCoapMessage.getOption
  rw [acceptedType_accept]
  cases ipInfo with
  | none => rfl
  | some ipinfo =>
    simp only [encode, bind, Except.bind, CoapContentType.toUInt32_inj]
    split_ifs with ht hj hc
    · rw [ht]; rfl
    · rw [hj]; rfl
    · rw [hc]; rfl
    · rfl

theorem SwitchResource.handleRequest_eq (lib : LobaroLibrary) (json : JsonLibrary)
    (state : SwitchResource.State) (request response : LobaroCoapMessage) :
    handleRequest lib json state request response = .ok (
      respondWith lib (·.setOption lib) (encode json state)
        (negotiated lib request.message.pOptionsList .applicationJson) .content response) := by
  unfold handleRequest LobaroCoapMessage.getOption
  rw [acceptedType_accept, ← respond_eq]
  rfl

theorem SwitchResource.handleNotify_eq (lib : LobaroLibrary) (json : JsonLibrary)
    (state : SwitchResource.State) (observer : LobaroCoapObserver) (response : LobaroCoapMessage) :
    handleNotify lib json state observer response = .ok (
      respondWith lib (·.setOption lib) (encode json state)
        (negotiated lib observer.observer.pOptList .applicationJson) .content response) := by
  unfold handleNotify LobaroCoapObserver.getOption
  rw [acceptedType_accept, ← respond_eq]
  rfl

section Handlers

variable (lib : LobaroLibrary) (json : JsonLibrary)

theorem wifi_complete_iff (ipInfo : Option WifiResource.IpInfo)
    (request response : LobaroCoapMessage) :
    (∀ outcome, WifiResource.handleRequest lib json ipInfo request response = .ok outcome →
      CompleteReport (fun format => ipInfo.bind (WifiResource.encode json · format))
        response.calls outcome) ↔
    ∀ ipinfo body, ipInfo = some ipinfo →
      WifiResource.encode json ipinfo (negotiated lib request.message.pOptionsList .textPlain) =
        some body →
      Stored lib (·.addOption lib) response
        (negotiated lib request.message.pOptionsList .textPlain) body := by
  rw [WifiResource.handleRequest_eq]
  simp only [Except.ok.injEq, forall_eq']
  cases ipInfo with
  | none =>
    refine iff_of_true (failure_complete ?_) (fun ipinfo body hi => by cases hi)
    change ¬ CoapMessageCode.internalServerError.Success
    decide
  | some ipinfo =>
    dsimp only
    cases he : WifiResource.encode json ipinfo
      (negotiated lib request.message.pOptionsList .textPlain) with
    | none =>
      refine iff_of_true (fun ho => by cases ho) ?_
      rintro _ body ⟨⟩ hb
      rw [he] at hb
      cases hb
    | some body =>
      apply (answer_complete_iff (addOption_records lib) content_success he).trans
      constructor
      · rintro h _ b ⟨⟩ hb
        rw [he] at hb
        exact Option.some.inj hb ▸ h
      · exact fun h => h ipinfo body rfl he

theorem led_complete_iff (led : LEDResource) (request response : LobaroCoapMessage) :
    (∀ led' outcome, LEDResource.handleRequest lib json led request response = .ok (led', outcome) →
      CompleteReport (LEDResource.encode json led') response.calls outcome) ↔
    ∀ led' code body, LEDResource.readInput lib json led request = .ok (some (led', code)) →
      LEDResource.encode json led' (LEDResource.answerFormat lib request) = some body →
      Stored lib (·.addOption lib) response (LEDResource.answerFormat lib request) body := by
  rw [LEDResource.handleRequest_eq]
  cases hinput : LEDResource.readInput lib json led request with
  | error e => simp [Except.map]
  | ok input =>
    rcases LEDResource.readInput_ok lib json hinput with rfl | hsome
    · refine iff_of_true ?_ (fun led' code body hi => by cases hi)
      rintro led' outcome ho
      have he := Prod.mk.inj (Except.ok.inj ho)
      rw [← he.2]
      exact fun hok => by cases hok
    · obtain ⟨led', code, hcode, rfl⟩ :
          ∃ led' code, code.Success ∧ input = some (led', code) := by
        rcases hsome with rfl | ⟨posted, color, _, _, rfl⟩
        · exact ⟨_, _, by decide, rfl⟩
        · exact ⟨_, _, by decide, rfl⟩
      simp only [Except.map, LEDResource.respond_eq, Except.ok.injEq, Prod.mk.injEq,
        Option.some.injEq]
      have hiff : CompleteReport (LEDResource.encode json led') response.calls
          (respondWith lib (·.addOption lib) (LEDResource.encode json led')
            (LEDResource.answerFormat lib request) code response) ↔ _ :=
        respondWith_complete_iff (addOption_records lib) hcode
      constructor
      · rintro h _ _ body ⟨rfl, rfl⟩ hb
        exact hiff.mp (h _ _ ⟨rfl, rfl⟩) body hb
      · rintro h _ _ ⟨rfl, rfl⟩
        exact hiff.mpr (fun body hb => h _ _ body ⟨rfl, rfl⟩ hb)

theorem switch_request_complete_iff (state : SwitchResource.State)
    (request response : LobaroCoapMessage) :
    (∀ outcome, SwitchResource.handleRequest lib json state request response = .ok outcome →
      CompleteReport (SwitchResource.encode json state) response.calls outcome) ↔
    ∀ body, SwitchResource.encode json state
        (negotiated lib request.message.pOptionsList .applicationJson) = some body →
      Stored lib (·.setOption lib) response
        (negotiated lib request.message.pOptionsList .applicationJson) body := by
  rw [SwitchResource.handleRequest_eq]
  simp only [Except.ok.injEq, forall_eq']
  exact respondWith_complete_iff (setOption_records lib) content_success

theorem switch_notify_complete_iff (state : SwitchResource.State) (observer : LobaroCoapObserver)
    (response : LobaroCoapMessage) :
    (∀ outcome, SwitchResource.handleNotify lib json state observer response = .ok outcome →
      CompleteReport (SwitchResource.encode json state) response.calls outcome) ↔
    ∀ body, SwitchResource.encode json state
        (negotiated lib observer.observer.pOptList .applicationJson) = some body →
      Stored lib (·.setOption lib) response
        (negotiated lib observer.observer.pOptList .applicationJson) body := by
  rw [SwitchResource.handleNotify_eq]
  simp only [Except.ok.injEq, forall_eq']
  exact respondWith_complete_iff (setOption_records lib) content_success

theorem complete_reports_iff (response : LobaroCoapMessage) :
    (∀ ipInfo request,
      (∀ outcome, WifiResource.handleRequest lib json ipInfo request response = .ok outcome →
        CompleteReport (fun format => ipInfo.bind (WifiResource.encode json · format))
          response.calls outcome) ↔
      ∀ ipinfo body, ipInfo = some ipinfo →
        WifiResource.encode json ipinfo (negotiated lib request.message.pOptionsList .textPlain) =
          some body →
        Stored lib (·.addOption lib) response
          (negotiated lib request.message.pOptionsList .textPlain) body) ∧
    (∀ led request,
      (∀ led' outcome,
        LEDResource.handleRequest lib json led request response = .ok (led', outcome) →
        CompleteReport (LEDResource.encode json led') response.calls outcome) ↔
      ∀ led' code body, LEDResource.readInput lib json led request = .ok (some (led', code)) →
        LEDResource.encode json led' (LEDResource.answerFormat lib request) = some body →
        Stored lib (·.addOption lib) response (LEDResource.answerFormat lib request) body) ∧
    (∀ state request,
      (∀ outcome, SwitchResource.handleRequest lib json state request response = .ok outcome →
        CompleteReport (SwitchResource.encode json state) response.calls outcome) ↔
      ∀ body, SwitchResource.encode json state
          (negotiated lib request.message.pOptionsList .applicationJson) = some body →
        Stored lib (·.setOption lib) response
          (negotiated lib request.message.pOptionsList .applicationJson) body) ∧
    ∀ state observer,
      (∀ outcome, SwitchResource.handleNotify lib json state observer response = .ok outcome →
        CompleteReport (SwitchResource.encode json state) response.calls outcome) ↔
      ∀ body, SwitchResource.encode json state
          (negotiated lib observer.observer.pOptList .applicationJson) = some body →
        Stored lib (·.setOption lib) response
          (negotiated lib observer.observer.pOptList .applicationJson) body :=
  ⟨fun ipInfo request => wifi_complete_iff lib json ipInfo request response,
    fun led request => led_complete_iff lib json led request response,
    fun state request => switch_request_complete_iff lib json state request response,
    fun state observer => switch_notify_complete_iff lib json state observer response⟩

end Handlers

def outOfMemory : LobaroLibrary :=
  { referenceLibrary with appendUintOptionToList := fun optionsList _ _ => (.error 1, optionsList) }

def plainGet : LobaroCoapMessage := { message := { code := .get } }

theorem complete_reports_counterexample :
    ¬ (∀ outcome, WifiResource.handleRequest outOfMemory (referenceJson []) (some ⟨1, 2, 3⟩) plainGet {} =
        .ok outcome →
      CompleteReport (WifiResource.encode (referenceJson []) ⟨1, 2, 3⟩) [] outcome) ∧
    ¬ (∀ led' outcome, LEDResource.handleRequest outOfMemory (referenceJson []) {} plainGet {} =
        .ok (led', outcome) →
      CompleteReport (LEDResource.encode (referenceJson []) led') [] outcome) ∧
    ¬ (∀ outcome, SwitchResource.handleRequest outOfMemory (referenceJson []) .idle plainGet {} =
        .ok outcome →
      CompleteReport (SwitchResource.encode (referenceJson []) .idle) [] outcome) ∧
    ¬ (∀ outcome, SwitchResource.handleNotify outOfMemory (referenceJson []) .idle {} {} = .ok outcome →
      CompleteReport (SwitchResource.encode (referenceJson []) .idle) [] outcome) := by
  refine ⟨?_, ?_, ?_, ?_⟩
  · intro h
    have hs := (answer_complete_iff (addOption_records outOfMemory) content_success rfl).mp
      (h _ (WifiResource.handleRequest_eq _ _ _ _ _))
    exact absurd hs.1 (by decide)
  · intro h
    have hc := h {} _ rfl
    rw [LEDResource.respond_eq] at hc
    have hs := (respondWith_complete_iff (addOption_records outOfMemory) content_success).mp hc _ rfl
    exact absurd hs.1 (by decide)
  · intro h
    have hs := (respondWith_complete_iff (setOption_records outOfMemory) content_success).mp
      (h _ (SwitchResource.handleRequest_eq _ _ _ _ _)) _ rfl
    exact absurd hs.1 (by decide)
  · intro h
    have hs := (respondWith_complete_iff (setOption_records outOfMemory) content_success).mp
      (h _ (SwitchResource.handleNotify_eq _ _ _ _ _)) _ rfl
    exact absurd hs.1 (by decide)

end IoTNode
