import IoTNode.Json
import Mathlib.Data.Rat.Floor

set_option autoImplicit false

/-!
A JSON library that behaves as nlohmann::json does on the values the resources build and read:
integers, plain strings, arrays and objects. It parses the texts of a table.
-/

namespace IoTNode

namespace Json

mutual

def text : Json → String
  | .null => "null"
  | .boolean b => if b then "true" else "false"
  | .numberInteger i => toString i
  | .numberFloat q => toString q.floor ++ ".0"
  | .string s => "\"" ++ s ++ "\""
  | .array items => "[" ++ itemsText items ++ "]"
  | .object members => "\x7b" ++ membersText members ++ "\x7d"

def itemsText : List Json → String
  | [] => ""
  | [item] => item.text
  | item :: items => item.text ++ "," ++ itemsText items

def membersText : List (String × Json) → String
  | [] => ""
  | [(key, value)] => "\"" ++ key ++ "\":" ++ value.text
  | (key, value) :: members => "\"" ++ key ++ "\":" ++ value.text ++ "," ++ membersText members

end

def cborHead (major : UInt8) (n : ℕ) : List UInt8 :=
  if n < 24 then [major <<< 5 ||| UInt8.ofNat n]
  else if n < 256 then [major <<< 5 ||| 24, UInt8.ofNat n]
  else [major <<< 5 ||| 25, UInt8.ofNat (n / 256), UInt8.ofNat n]

def cborText (s : String) : List UInt8 := cborHead 3 s.utf8ByteSize ++ s.toUTF8.toList

mutual

def cbor : Json → List UInt8
  | .null => [0xf6]
  | .boolean b => if b then [0xf5] else [0xf4]
  | .numberInteger i => if 0 ≤ i then cborHead 0 i.toNat else cborHead 1 (-1 - i).toNat
  | .numberFloat q => cborHead 0 q.floor.toNat
  | .string s => cborText s
  | .array items => cborHead 4 items.length ++ itemsCbor items
  | .object members => cborHead 5 members.length ++ membersCbor members

def itemsCbor : List Json → List UInt8
  | [] => []
  | item :: items => item.cbor ++ itemsCbor items

def membersCbor : List (String × Json) → List UInt8
  | [] => []
  | (key, value) :: members => cborText key ++ value.cbor ++ membersCbor members

end

def castUInt8 : Json → Option UInt8
  | .boolean b => some (if b then 1 else 0)
  | .numberInteger i => some (UInt8.ofNat (i % 256).toNat)
  | .numberFloat q => some (UInt8.ofNat ((if 0 ≤ q then q.floor else q.ceil) % 256).toNat)
  | _ => none

end Json

def referenceJson (parsed : List (List UInt8 × Json)) : JsonLibrary where
  parse text := (parsed.find? (fun entry => entry.1 == text)).map Prod.snd
  dump value := value.text.toUTF8.toList
  toCbor := Json.cbor
  getUInt8 := Json.castUInt8

end IoTNode
