import IoTNode.Json
import IoTNode.LobaroMessages

set_option autoImplicit false

namespace IoTNode

open Coap Lobaro

namespace Utils

/-- An `ip4_addr_t`: the address in network order, so its first octet is the lowest byte. -/
abbrev Ip4Addr := UInt32

def ip4Addr1_16 (ip : Ip4Addr) : UInt16 := (ip &&& 0xFF).toUInt16
def ip4Addr2_16 (ip : Ip4Addr) : UInt16 := ((ip >>> 8) &&& 0xFF).toUInt16
def ip4Addr3_16 (ip : Ip4Addr) : UInt16 := ((ip >>> 16) &&& 0xFF).toUInt16
def ip4Addr4_16 (ip : Ip4Addr) : UInt16 := ((ip >>> 24) &&& 0xFF).toUInt16

def decimal (n : UInt16) : String := toString n.toNat

def writeIp (os : String) (ip : Ip4Addr) : String :=
  os ++ decimal (ip4Addr1_16 ip) ++ "." ++ decimal (ip4Addr2_16 ip) ++ "." ++
    decimal (ip4Addr3_16 ip) ++ "." ++ decimal (ip4Addr4_16 ip)

def ipToString (ip : Ip4Addr) : String :=
  "" ++ (decimal (ip4Addr1_16 ip) ++ "." ++ decimal (ip4Addr2_16 ip) ++ "." ++
    decimal (ip4Addr3_16 ip) ++ "." ++ decimal (ip4Addr4_16 ip))

def textBytes (text : String) : Coap.Payload := text.toUTF8.toList

end Utils

namespace WifiResource

open Utils

structure IpInfo where
  ip : Ip4Addr
  netmask : Ip4Addr
  gw : Ip4Addr
deriving DecidableEq, Repr

def textOutput (ipinfo : IpInfo) : String :=
  writeIp (writeIp (writeIp "IP: " ipinfo.ip ++ ", Mask: ") ipinfo.netmask ++ ", Gateway: ")
    ipinfo.gw

def output (ipinfo : IpInfo) : Json :=
  .object (Json.setMember (Json.setMember (Json.setMember []
    "ip" (.string (ipToString ipinfo.ip)))
    "mask" (.string (ipToString ipinfo.netmask)))
    "gateway" (.string (ipToString ipinfo.gw)))

variable (lib : LobaroLibrary) (json : JsonLibrary)

def handleRequest (ipInfo : Option IpInfo) (request response : LobaroCoapMessage) :
    Except Abort (LobaroCoapMessage × CoapResult) := do
  let format ← acceptedType (request.getOption lib CoapOptionValue.accept.number) .textPlain
  let accept : UInt32 := format.toUInt32
  match ipInfo with
  -- `tcpip_adapter_get_ip_info` failed
  | none =>
    let (response, _) := response.setCode .internalServerError
    let (response, _) :=
      response.setPayload lib (textBytes "failed to get ip address information")
    return (response, .ok)
  | some ipinfo =>
    if accept = CoapContentType.textPlain.toUInt32 then
      return answer lib (·.addOption lib) response .textPlain (textBytes (textOutput ipinfo)) .content
    else if accept = CoapContentType.applicationJson.toUInt32 then
      return answer lib (·.addOption lib) response .applicationJson (json.dump (output ipinfo)) .content
    else if accept = CoapContentType.applicationCbor.toUInt32 then
      return answer lib (·.addOption lib) response .applicationCbor (json.toCbor (output ipinfo)) .content
    else
      let (response, _) := response.setCode .badOption
      return (response, .error)

end WifiResource

namespace SwitchResource

inductive State
  | idle
  | pushed
deriving DecidableEq, Repr

def output (state : State) : Json :=
  .object (Json.setMember [] "state" (.string (if state = .idle then "idle" else "pushed")))

variable (lib : LobaroLibrary) (json : JsonLibrary) (state : State)

def respond (response : LobaroCoapMessage) (contentType : CoapContentType) :
    LobaroCoapMessage × CoapResult :=
  if contentType = .applicationJson then
    answer lib (·.setOption lib) response .applicationJson (json.dump (output state)) .content
  else if contentType = .applicationCbor then
    answer lib (·.setOption lib) response .applicationCbor (json.toCbor (output state)) .content
  else response.setCode .badOption

def handleNotify (observer : LobaroCoapObserver) (response : LobaroCoapMessage) :
    Except Abort (LobaroCoapMessage × CoapResult) := do
  let accept ←
    acceptedType (observer.getOption lib CoapOptionValue.accept.number) .applicationJson
  return respond lib json state response accept

def handleRequest (request response : LobaroCoapMessage) :
    Except Abort (LobaroCoapMessage × CoapResult) := do
  let accept ←
    acceptedType (request.getOption lib CoapOptionValue.accept.number) .applicationJson
  return respond lib json state response accept

end SwitchResource

end IoTNode
