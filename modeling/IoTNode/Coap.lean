import Mathlib.Data.List.Basic

set_option autoImplicit false

namespace IoTNode.Coap

inductive CoapResult
  | ok
  | error
  | postpone
deriving DecidableEq, Repr

/-- An `int`-based enumeration that the handlers also fill with arbitrary option values. -/
abbrev CoapContentType := Int32

def CoapContentType.textPlain : CoapContentType := 0
def CoapContentType.applicationJson : CoapContentType := 50
def CoapContentType.applicationCbor : CoapContentType := 60

theorem CoapContentType.toUInt32_inj {a b : CoapContentType} : a.toUInt32 = b.toUInt32 ↔ a = b := by
  constructor
  · intro h
    have := congrArg UInt32.toInt32 h
    simpa using this
  · exact congrArg Int32.toUInt32

inductive CoapOptionValue
  | ifMatch
  | uriHost
  | eTag
  | ifNoneMatch
  | uriPort
  | locationPath
  | uriPath
  | contentFormat
  | maxAge
  | uriQuery
  | accept
  | locationQuery
  | proxyUri
  | proxyScheme
  | size1
deriving DecidableEq, Repr

def CoapOptionValue.number : CoapOptionValue → UInt16
  | .ifMatch => 1
  | .uriHost => 3
  | .eTag => 4
  | .ifNoneMatch => 5
  | .uriPort => 7
  | .locationPath => 8
  | .uriPath => 11
  | .contentFormat => 12
  | .maxAge => 14
  | .uriQuery => 15
  | .accept => 17
  | .locationQuery => 20
  | .proxyUri => 35
  | .proxyScheme => 39
  | .size1 => 60

inductive CoapOptionType
  | empty
  | opaqueBytes
  | uInt
  | string
deriving DecidableEq, Repr

abbrev CoapMessageCode := Int32

def messageCodeFromClassCode (cls code : Int32) : Int32 := (cls <<< 5) ||| code

namespace CoapMessageCode

def get : CoapMessageCode := 1
def post : CoapMessageCode := 2
def put : CoapMessageCode := 3
def delete : CoapMessageCode := 4
def changed : CoapMessageCode := messageCodeFromClassCode 2 4
def content : CoapMessageCode := messageCodeFromClassCode 2 5
def badRequest : CoapMessageCode := messageCodeFromClassCode 4 0
def badOption : CoapMessageCode := messageCodeFromClassCode 4 2
def internalServerError : CoapMessageCode := messageCodeFromClassCode 5 0

def Success (code : CoapMessageCode) : Prop := code >>> 5 = 2

instance (code : CoapMessageCode) : Decidable code.Success :=
  inferInstanceAs (Decidable (code >>> 5 = 2))

def ClientError (code : CoapMessageCode) : Prop := code >>> 5 = 4

instance (code : CoapMessageCode) : Decidable code.ClientError :=
  inferInstanceAs (Decidable (code >>> 5 = 4))

end CoapMessageCode

abbrev Payload := List UInt8

inductive ICoapOption
  | coapEmptyOption (number : UInt16)
  | coapOpaqueOption (number : UInt16) (data : Payload)
  | coapStringOption (number : UInt16) (data : List UInt8)
  | coapUIntOption (number : UInt16) (value : UInt32)
deriving DecidableEq, Repr

namespace ICoapOption

def number : ICoapOption → UInt16
  | coapEmptyOption n => n
  | coapOpaqueOption n _ => n
  | coapStringOption n _ => n
  | coapUIntOption n _ => n

def type : ICoapOption → CoapOptionType
  | coapEmptyOption _ => .empty
  | coapOpaqueOption _ _ => .opaqueBytes
  | coapStringOption _ _ => .string
  | coapUIntOption _ _ => .uInt

def getSize : ICoapOption → ℕ
  | coapEmptyOption _ => 0
  | coapOpaqueOption _ data => data.length
  | coapStringOption _ data => data.length
  | coapUIntOption _ value =>
    if value > 0xFFFFFF then 4
    else if value > 0xFFFF then 3
    else if value > 0xFF then 2
    else if value > 0 then 1
    else 0

def getPtr : ICoapOption → Option (List UInt8)
  | coapEmptyOption _ => none
  | coapOpaqueOption _ data => some data
  | coapStringOption _ data => some data
  | coapUIntOption _ _ => none

end ICoapOption

/-- The ways a call ends without returning: a C++ exception, a failed `assert`, or a pointer to
an object that does not exist. -/
inductive Abort
  | exception
  | assertion
  | danglingPointer
deriving DecidableEq, Repr

def asUInt : ICoapOption → Except Abort UInt32
  | .coapUIntOption _ value => .ok value
  | _ => .error .assertion

end IoTNode.Coap
