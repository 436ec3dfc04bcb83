import IoTNode.LobaroLibrary

set_option autoImplicit false

namespace IoTNode.Lobaro

open Coap

def coapOptiontypeMap : List (CoapOptionValue × CoapOptionType) :=
  [(.ifMatch, .opaqueBytes),
   (.uriHost, .string),
   (.eTag, .opaqueBytes),
   (.ifNoneMatch, .empty),
   (.uriPort, .uInt),
   (.locationPath, .string),
   (.uriPath, .string),
   (.contentFormat, .uInt),
   (.maxAge, .uInt),
   (.uriQuery, .string),
   (.accept, .uInt),
   (.locationQuery, .string),
   (.proxyUri, .string),
   (.proxyScheme, .string),
   (.size1, .uInt)]

def optionType (number : UInt16) : CoapOptionType :=
  ((coapOptiontypeMap.find? (fun entry => entry.1.number == number)).map Prod.snd).getD .empty

def getOption (lib : LobaroLibrary) (optionsList : List CoAPOption) (number : UInt16) :
    CoapResult × Option ICoapOption :=
  match optionsList.find? (fun opt => opt.number == number) with
  | none => (.error, none)
  | some opt =>
    match optionType number with
    | .empty => (.ok, some (.coapEmptyOption number))
    | .opaqueBytes => (.ok, some (.coapOpaqueOption number opt.bytes))
    | .string => (.ok, some (.coapStringOption number opt.bytes))
    | .uInt => (.ok, some (.coapUIntOption number (lib.getUintFromOption opt 0).2))

def toCoapResult (res : CoAPResult) : CoapResult := if res = .ok then .ok else .error

def addOption (lib : LobaroLibrary) (optionsList : List CoAPOption) (option : ICoapOption) :
    List CoAPOption × CoapResult :=
  let (res, optionsList) :=
    match option with
    | .coapUIntOption number value => lib.appendUintOptionToList optionsList number value
    | _ =>
      lib.copyOptionToList optionsList
        { number := option.number
          length := UInt16.ofNat option.getSize
          value := option.getPtr.getD [] }
  (optionsList, toCoapResult res)

inductive MessageCall
  | storedOption (option : ICoapOption) (result : CoapResult)
  | storedPayload (payload : Payload) (result : CoapResult)
deriving DecidableEq, Repr

structure LobaroCoapMessage where
  message : CoAPMessage := {}
  -- ghost: what each call reported; the code keeps only the last result
  calls : List MessageCall := []
deriving DecidableEq, Repr

namespace LobaroCoapMessage

variable (lib : LobaroLibrary) (self : LobaroCoapMessage)

def getOption (number : UInt16) : CoapResult × Option ICoapOption :=
  Lobaro.getOption lib self.message.pOptionsList number

def addOption (option : ICoapOption) : LobaroCoapMessage × CoapResult :=
  let (optionsList, result) := Lobaro.addOption lib self.message.pOptionsList option
  ({ message := { self.message with pOptionsList := optionsList }
     calls := self.calls ++ [.storedOption option result] }, result)

def setOption (option : ICoapOption) : LobaroCoapMessage × CoapResult :=
  let optionsList :=
    match lib.findOptionByNumber self.message option.number with
    | some existingOption => lib.removeOptionFromList self.message.pOptionsList existingOption
    | none => self.message.pOptionsList
  let (optionsList, result) := Lobaro.addOption lib optionsList option
  ({ message := { self.message with pOptionsList := optionsList }
     calls := self.calls ++ [.storedOption option result] }, result)

def getCode : CoapMessageCode := self.message.code

def setCode (code : CoapMessageCode) : LobaroCoapMessage × CoapResult :=
  ({ self with message := { self.message with code := code } }, .ok)

def getPayload : CoapResult × Option Payload :=
  match self.message.payload with
  | none => (.error, none)
  | some bytes => (.ok, some (bytes.take self.message.payloadLength.toNat))

def setPayload (payload : Payload) : LobaroCoapMessage × CoapResult :=
  let (res, stored, length) :=
    lib.setPayload self.message payload (UInt16.ofNat payload.length)
  let result := toCoapResult res
  ({ message := { self.message with payload := stored, payloadLength := length }
     calls := self.calls ++ [.storedPayload payload result] }, result)

end LobaroCoapMessage

structure LobaroCoapObserver where
  observer : CoAPObserver := {}
deriving DecidableEq, Repr

namespace LobaroCoapObserver

variable (lib : LobaroLibrary) (self : LobaroCoapObserver)

def getOption (number : UInt16) : CoapResult × Option ICoapOption :=
  Lobaro.getOption lib self.observer.pOptList number

def addOption (option : ICoapOption) : LobaroCoapObserver × CoapResult :=
  let (optionsList, result) := Lobaro.addOption lib self.observer.pOptList option
  ({ observer := { self.observer with pOptList := optionsList } }, result)

end LobaroCoapObserver

def decodedUInt (lib : LobaroLibrary) (optionsList : List CoAPOption) (number : UInt16) :
    Option UInt32 :=
  (optionsList.find? (fun opt => opt.number == number)).map
    (fun opt => (lib.getUintFromOption opt 0).2)

def contentFormatOption (format : CoapContentType) : ICoapOption :=
  .coapUIntOption CoapOptionValue.contentFormat.number format.toUInt32

/-- The three calls with which every handler answers; `store` is `AddOption` or `SetOption`.
What the first two report is overwritten by the next call. -/
def answer (lib : LobaroLibrary)
    (store : LobaroCoapMessage → ICoapOption → LobaroCoapMessage × CoapResult)
    (response : LobaroCoapMessage) (format : CoapContentType) (body : Payload)
    (code : CoapMessageCode) : LobaroCoapMessage × CoapResult :=
  let (response, _) := store response (contentFormatOption format)
  let (response, _) := response.setPayload lib body
  response.setCode code

theorem getOption_uInt (lib : LobaroLibrary) (optionsList : List CoAPOption) (number : UInt16)
    (h : optionType number = .uInt) :
    getOption lib optionsList number =
      match decodedUInt lib optionsList number with
      | none => (.error, none)
      | some value => (.ok, some (.coapUIntOption number value)) := by
  unfold getOption decodedUInt
  cases optionsList.find? (fun opt => opt.number == number) with
  | none => rfl
  | some opt => simp only [h, Option.map_some]

theorem optionType_accept : optionType CoapOptionValue.accept.number = .uInt := by decide

@[simp] theorem toCoapResult_ok_iff (res : CoAPResult) : toCoapResult res = .ok ↔ res = .ok := by
  unfold toCoapResult
  split_ifs with h <;> simp [h]

def acceptedType (found : CoapResult × Option ICoapOption) (default : CoapContentType) :
    Except Abort CoapContentType :=
  match found with
  | (.ok, some option) => (asUInt option).map UInt32.toInt32
  | _ => .ok default

def negotiated (lib : LobaroLibrary) (optionsList : List CoAPOption) (default : CoapContentType) :
    CoapContentType :=
  match decodedUInt lib optionsList CoapOptionValue.accept.number with
  | none => default
  | some value => value.toInt32

theorem acceptedType_accept (lib : LobaroLibrary) (optionsList : List CoAPOption)
    (default : CoapContentType) :
    acceptedType (getOption lib optionsList CoapOptionValue.accept.number) default =
      .ok (negotiated lib optionsList default) := by
  rw [getOption_uInt lib optionsList _ optionType_accept]
  unfold negotiated
  cases decodedUInt lib optionsList CoapOptionValue.accept.number <;> rfl

end IoTNode.Lobaro
