import IoTNode.Coap

set_option autoImplicit false

namespace IoTNode.Lobaro

open Coap

inductive CoAPResult
  | ok
  | error (code : ℕ)
deriving DecidableEq, Repr

/-- A node of an option list; the list itself stands for the `next` pointers. -/
structure CoAPOption where
  number : UInt16
  length : UInt16
  value : List UInt8
deriving DecidableEq, Repr

def CoAPOption.bytes (option : CoAPOption) : List UInt8 := option.value.take option.length.toNat

abbrev CoAPRes := ℕ

structure CoAPMessage where
  code : CoapMessageCode := 0
  pOptionsList : List CoAPOption := []
  payload : Option (List UInt8) := none
  payloadLength : UInt16 := 0
  pResource : Option CoAPRes := none
deriving DecidableEq, Repr

structure CoAPObserver where
  pOptList : List CoAPOption := []
  failCount : UInt8 := 0
deriving DecidableEq, Repr

/-- The functions of the library that the wrappers call, as arbitrary functions: each may
succeed or fail on any argument. Nodes of a list are named by their position in it. -/
structure LobaroLibrary where
  getUintFromOption : CoAPOption → UInt32 → CoAPResult × UInt32
  appendUintOptionToList : List CoAPOption → UInt16 → UInt32 → CoAPResult × List CoAPOption
  copyOptionToList : List CoAPOption → CoAPOption → CoAPResult × List CoAPOption
  findOptionByNumber : CoAPMessage → UInt16 → Option ℕ
  removeOptionFromList : List CoAPOption → ℕ → List CoAPOption
  setPayload : CoAPMessage → List UInt8 → UInt16 → CoAPResult × Option (List UInt8) × UInt16

/-!
A library that behaves as lobaro-coap documents it, on lists with any content and with memory
that never runs out. The handlers are stated over an arbitrary library; this one instantiates it.
-/

def bigEndian (bytes : List UInt8) : UInt32 :=
  bytes.foldl (fun value byte => (value <<< 8) ||| byte.toUInt32) 0

def minimalBytes (value : UInt32) : List UInt8 :=
  [(value >>> 24).toUInt8, (value >>> 16).toUInt8, (value >>> 8).toUInt8, value.toUInt8].dropWhile
    (fun byte => byte == 0)

def insertOption : List CoAPOption → CoAPOption → List CoAPOption
  | [], option => [option]
  | o :: os, option =>
    if option.number < o.number then option :: o :: os else o :: insertOption os option

def referenceLibrary : LobaroLibrary where
  getUintFromOption option value :=
    if option.length > 4 then (.error 1, value) else (.ok, bigEndian option.bytes)
  appendUintOptionToList optionsList number value :=
    let bytes := minimalBytes value
    (.ok, insertOption optionsList ⟨number, UInt16.ofNat bytes.length, bytes⟩)
  copyOptionToList optionsList option :=
    (.ok, insertOption optionsList { option with value := option.bytes })
  findOptionByNumber message number :=
    message.pOptionsList.findIdx? (fun option => option.number == number)
  removeOptionFromList optionsList position := optionsList.eraseIdx position
  setPayload _ bytes length := (.ok, some (bytes.take length.toNat), length)

end IoTNode.Lobaro
