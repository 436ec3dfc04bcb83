import IoTNode.OptionRoundTrip
import IoTNode.Payloads

set_option autoImplicit false

namespace IoTNode

open Coap Lobaro

/-- The library keeps its promises about options and accepts the Content-Format. -/
structure TakesFormat (lib : LobaroLibrary)
    (store : LobaroCoapMessage → ICoapOption → LobaroCoapMessage × CoapResult)
    (response : LobaroCoapMessage) (format : CoapContentType) : Prop where
  inserts : InsertsOptions lib
  decodes : DecodesShortUints lib
  unlabelled : ∀ node ∈ response.message.pOptionsList,
    node.number ≠ CoapOptionValue.contentFormat.number
  stored : (store response (contentFormatOption format)).2 = .ok

/-- The library keeps its promise about payloads and accepts this one. -/
structure TakesPayload (lib : LobaroLibrary)
    (store : LobaroCoapMessage → ICoapOption → LobaroCoapMessage × CoapResult)
    (response : LobaroCoapMessage) (format : CoapContentType) (body : Payload) : Prop where
  copies : CopiesPayloads lib
  nonempty : body ≠ []
  short : body.length ≤ 65535
  stored : ((store response (contentFormatOption format)).1.setPayload lib body).2 = .ok

/-- What can be read from an answered response. -/
structure Conveys (lib : LobaroLibrary)
    (store : LobaroCoapMessage → ICoapOption → LobaroCoapMessage × CoapResult)
    (response : LobaroCoapMessage) (format : CoapContentType) (body : Payload)
    (code : CoapMessageCode) (answered : LobaroCoapMessage) : Prop where
  code : answered.getCode = code
  labelled : TakesFormat lib store response format →
    answered.getOption lib CoapOptionValue.contentFormat.number =
      (.ok, some (.coapUIntOption CoapOptionValue.contentFormat.number format.toUInt32))
  payload : TakesPayload lib store response format body → answered.getPayload = (.ok, some body)

section Answer

variable {lib : LobaroLibrary}
  {store : LobaroCoapMessage → ICoapOption → LobaroCoapMessage × CoapResult}
  {response : LobaroCoapMessage} {format : CoapContentType} {body : Payload}
  {code : CoapMessageCode}

theorem contentFormat_known (format : CoapContentType) : Known (contentFormatOption format) :=
  ⟨(.contentFormat, .uInt), by decide, rfl, rfl⟩

theorem contentFormat_size (format : CoapContentType) :
    (contentFormatOption format).getSize ≤ 65535 := by
  dsimp only [contentFormatOption, ICoapOption.getSize]
  split_ifs <;> decide

theorem TakesPayload.getPayload (h : TakesPayload lib store response format body) :
    (answer lib store response format body code).1.getPayload = (.ok, some body) :=
  LobaroCoapMessage.setPayload_getPayload h.copies h.nonempty
    (LobaroCoapMessage.setPayload_accepts.mp h.stored) h.short

theorem answer_conveys : Conveys lib (·.addOption lib) response format body code
    (answer lib (·.addOption lib) response format body code).1 where
  code := rfl
  labelled h :=
    ((getOption_addOption lib h.inserts h.decodes (contentFormatOption format)
      (contentFormat_known format) (contentFormat_size format)).1 response _ h.unlabelled
        (Prod.ext rfl h.stored)).1
  payload h := h.getPayload

theorem setOption_absent (hr : RemovesOptions lib) {option : ICoapOption}
    (ha : ∀ node ∈ response.message.pOptionsList, node.number ≠ option.number) :
    response.setOption lib option = response.addOption lib option := by
  have hnone : lib.findOptionByNumber response.message option.number = none := by
    rw [hr.find, List.findIdx?_eq_none_iff]
    intro node hnode
    exact beq_eq_false_iff_ne.mpr (ha node hnode)
  unfold LobaroCoapMessage.setOption LobaroCoapMessage.addOption
  rw [hnone]

theorem answer_conveys_set (hr : RemovesOptions lib) :
    Conveys lib (·.setOption lib) response format body code
      (answer lib (·.setOption lib) response format body code).1 where
  code := rfl
  labelled h := by
    have hset : response.setOption lib (contentFormatOption format) = _ :=
      setOption_absent hr h.unlabelled
    have hstored := h.stored
    rw [hset] at hstored
    unfold answer
    dsimp only
    rw [hset]
    exact answer_conveys.labelled ⟨h.inserts, h.decodes, h.unlabelled, hstored⟩
  payload h := h.getPayload

end Answer

end IoTNode
