import IoTNode.CompleteResponses
import IoTNode.Foundations.Texts

set_option autoImplicit false

namespace IoTNode

open Coap Foundations Lobaro Utils

namespace Utils

def octets (ip : Ip4Addr) : List ℕ :=
  [(ip4Addr1_16 ip).toNat, (ip4Addr2_16 ip).toNat, (ip4Addr3_16 ip).toNat, (ip4Addr4_16 ip).toNat]

def ofOctets (a b c d : ℕ) : Ip4Addr := UInt32.ofNat (a + 256 * (b + 256 * (c + 256 * d)))

/-- Four decimal numbers separated by dots. -/
def readIp (text : List Char) : Option Ip4Addr :=
  match readDecimals '.' text with
  | some [a, b, c, d] =>
    if a < 256 ∧ b < 256 ∧ c < 256 ∧ d < 256 then some (ofOctets a b c d) else none
  | _ => none

theorem octet_toNat (n : UInt32) : (n &&& 0xFF).toUInt16.toNat = n.toNat % 256 := by
  have hmask : n.toNat &&& 255 = n.toNat % 256 := Nat.and_two_pow_sub_one_eq_mod n.toNat 8
  rw [UInt32.toNat_toUInt16, UInt32.toNat_and]
  change (n.toNat &&& 255) % 2 ^ 16 = _
  rw [hmask]
  omega

theorem octets_eq (ip : Ip4Addr) :
    octets ip = [ip.toNat % 256, ip.toNat / 2 ^ 8 % 256, ip.toNat / 2 ^ 16 % 256,
      ip.toNat / 2 ^ 24 % 256] := by
  unfold octets ip4Addr1_16 ip4Addr2_16 ip4Addr3_16 ip4Addr4_16
  simp only [octet_toNat, UInt32.toNat_shiftRight, Nat.shiftRight_eq_div_pow]
  rfl

theorem ofOctets_octets (ip : Ip4Addr) :
    ofOctets (ip.toNat % 256) (ip.toNat / 2 ^ 8 % 256) (ip.toNat / 2 ^ 16 % 256)
      (ip.toNat / 2 ^ 24 % 256) = ip := by
  have hip := ip.toNat_lt
  apply UInt32.toNat_inj.mp
  rw [ofOctets, UInt32.toNat_ofNat']
  omega

theorem decimal_toList (n : UInt16) : (decimal n).toList = Nat.toDigits 10 n.toNat :=
  Nat.toList_repr

theorem ipToString_toList (ip : Ip4Addr) :
    (ipToString ip).toList = printDecimals '.' (octets ip) := by
  simp [ipToString, octets, printDecimals, decimal_toList]

theorem ipToString_length (ip : Ip4Addr) : (ipToString ip).toList.length ≤ 15 := by
  have hoctet : ∀ n, (Nat.toDigits 10 (n % 256)).length ≤ 3 := by
    intro n
    rw [Nat.length_toDigits_le_iff (by decide) (by decide)]
    omega
  rw [ipToString_toList, octets_eq]
  have h1 := hoctet ip.toNat
  have h2 := hoctet (ip.toNat / 2 ^ 8)
  have h3 := hoctet (ip.toNat / 2 ^ 16)
  have h4 := hoctet (ip.toNat / 2 ^ 24)
  simp only [printDecimals, List.map_cons, List.map_nil, List.intercalate_cons_cons,
    List.intercalate_singleton, List.length_append, List.length_cons, List.length_nil]
  omega

theorem writeIp_eq (os : String) (ip : Ip4Addr) : writeIp os ip = os ++ ipToString ip := by
  simp [writeIp, ipToString, String.append_assoc]

theorem readIp_printed (ip : Ip4Addr) : readIp (printDecimals '.' (octets ip)) = some ip := by
  unfold readIp
  rw [readDecimals_printDecimals (by decide) (by simp [octets]), octets_eq]
  have h : ∀ n, n % 256 < 256 := fun n => Nat.mod_lt n (by decide)
  dsimp only
  rw [if_pos ⟨h _, h _, h _, h _⟩, ofOctets_octets]

theorem readIp_ipToString (ip : Ip4Addr) : readIp (ipToString ip).toList = some ip := by
  rw [ipToString_toList, readIp_printed]

theorem not_mem_ipToString {c : Char} (hdot : c ≠ '.') (hdigit : ¬ c.isDigit) (ip : Ip4Addr) :
    c ∉ (ipToString ip).toList := by
  rw [ipToString_toList]
  intro h
  rcases mem_printDecimals h with he | hd
  · exact hdot he
  · exact hdigit hd

end Utils

namespace WifiResource

def readField (label : String) (text : List Char) : Option Ip4Addr :=
  (afterLabel label.toList text).bind readIp

/-- The triple that a `text/plain` payload describes. -/
def readText (payload : Payload) : Option IpInfo := do
  let text ← readUtf8 payload
  match text.toList.splitOn ',' with
  | [ip, netmask, gw] =>
    return ⟨← readField "IP: " ip, ← readField " Mask: " netmask, ← readField " Gateway: " gw⟩
  | _ => none

def readString : Option Json → Option Ip4Addr
  | some (.string text) => readIp text.toList
  | _ => none

/-- The triple that the three strings of a JSON payload describe. -/
def readMembers (value : Json) : Option IpInfo := do
  return ⟨← readString (value.find "ip"), ← readString (value.find "mask"),
    ← readString (value.find "gateway")⟩

theorem readField_label (label : String) (ip : Ip4Addr) :
    readField label (label.toList ++ (ipToString ip).toList) = some ip := by
  rw [readField, afterLabel_append, Option.bind_some, readIp_ipToString]

theorem textOutput_fields (ipinfo : IpInfo) :
    (textOutput ipinfo).toList = [','].intercalate
      ["IP: ".toList ++ (ipToString ipinfo.ip).toList,
       " Mask: ".toList ++ (ipToString ipinfo.netmask).toList,
       " Gateway: ".toList ++ (ipToString ipinfo.gw).toList] := by
  simp [textOutput, writeIp_eq]

theorem textOutput_fits (ipinfo : IpInfo) :
    textBytes (textOutput ipinfo) ≠ [] ∧ (textBytes (textOutput ipinfo)).length ≤ 65535 := by
  have hlabelled : (textOutput ipinfo).toList.length =
      23 + (ipToString ipinfo.ip).toList.length + (ipToString ipinfo.netmask).toList.length +
        (ipToString ipinfo.gw).toList.length := by
    rw [textOutput_fields]
    simp
    omega
  constructor
  · apply toUTF8_ne_nil
    intro he
    rw [he] at hlabelled
    simp at hlabelled
    omega
  · have hbytes := length_toUTF8_le (textOutput ipinfo)
    have hip := ipToString_length ipinfo.ip
    have hnetmask := ipToString_length ipinfo.netmask
    have hgw := ipToString_length ipinfo.gw
    unfold textBytes
    omega

theorem textOutput_split (ipinfo : IpInfo) :
    (textOutput ipinfo).toList.splitOn ',' =
      ["IP: ".toList ++ (ipToString ipinfo.ip).toList,
       " Mask: ".toList ++ (ipToString ipinfo.netmask).toList,
       " Gateway: ".toList ++ (ipToString ipinfo.gw).toList] := by
  have hfield : ∀ (label : String) (ip : Ip4Addr), ',' ∉ label.toList →
      ',' ∉ label.toList ++ (ipToString ip).toList := by
    intro label ip hlabel h
    rcases List.mem_append.mp h with h | h
    · exact hlabel h
    · exact not_mem_ipToString (by decide) (by decide) ip h
  rw [textOutput_fields]
  apply List.splitOn_intercalate
  · intro field h
    simp only [List.mem_cons, List.not_mem_nil, or_false] at h
    rcases h with rfl | rfl | rfl
    · exact hfield _ _ (by decide)
    · exact hfield _ _ (by decide)
    · exact hfield _ _ (by decide)
  · exact List.cons_ne_nil _ _

theorem readText_textOutput (ipinfo : IpInfo) :
    readText (textBytes (textOutput ipinfo)) = some ipinfo := by
  unfold readText textBytes
  rw [readUtf8_toUTF8, Option.bind_eq_bind, Option.bind_some, textOutput_split]
  dsimp only
  rw [readField_label, readField_label, readField_label]
  rfl

theorem output_members (ipinfo : IpInfo) :
    (output ipinfo).find "ip" = some (.string (ipToString ipinfo.ip)) ∧
    (output ipinfo).find "mask" = some (.string (ipToString ipinfo.netmask)) ∧
    (output ipinfo).find "gateway" = some (.string (ipToString ipinfo.gw)) := by
  simp [output, Json.find_setMember]

theorem readMembers_output (ipinfo : IpInfo) : readMembers (output ipinfo) = some ipinfo := by
  obtain ⟨hip, hmask, hgateway⟩ := output_members ipinfo
  have hread : ∀ ip, readString (some (.string (ipToString ip))) = some ip := readIp_ipToString
  unfold readMembers
  rw [hip, hmask, hgateway, hread, hread, hread]
  rfl

/-- `HandleRequest` answers with 2.05, this Content-Format and this payload. -/
def AnswersWith (lib : LobaroLibrary) (json : JsonLibrary) (ipinfo : IpInfo)
    (request : LobaroCoapMessage) (format : CoapContentType) (body : Payload) : Prop :=
  ∀ response, ∃ outcome,
    handleRequest lib json (some ipinfo) request response = .ok (outcome, .ok) ∧
      Conveys lib (·.addOption lib) response format body .content outcome

theorem answers_encoded {lib : LobaroLibrary} {json : JsonLibrary} {ipinfo : IpInfo}
    {request : LobaroCoapMessage} {format : CoapContentType} {body : Payload}
    (hf : negotiated lib request.message.pOptionsList .textPlain = format)
    (he : encode json ipinfo format = some body) :
    AnswersWith lib json ipinfo request format body := by
  intro response
  rw [handleRequest_eq]
  dsimp only
  rw [hf, he]
  exact ⟨_, rfl, answer_conveys⟩

def memberStrings (ipinfo : IpInfo) : List (Option Json) :=
  ["ip", "mask", "gateway"].map (output ipinfo).find

theorem text_injective {i j : IpInfo} (h : textBytes (textOutput i) = textBytes (textOutput j)) :
    i = j := by
  have hread := congrArg readText h
  rw [readText_textOutput, readText_textOutput] at hread
  exact Option.some.inj hread

theorem memberStrings_injective {i j : IpInfo} (h : memberStrings i = memberStrings j) : i = j := by
  obtain ⟨hip, hrest⟩ := List.cons.inj h
  obtain ⟨hmask, hrest⟩ := List.cons.inj hrest
  obtain ⟨hgateway, _⟩ := List.cons.inj hrest
  have hread : readMembers (output i) = readMembers (output j) := by
    unfold readMembers
    rw [hip, hmask, hgateway]
  rw [readMembers_output, readMembers_output] at hread
  exact Option.some.inj hread

theorem renderings_agree (lib : LobaroLibrary) (json : JsonLibrary) :
    (∀ os ip, writeIp os ip = os ++ ipToString ip) ∧
    (∀ ip, readIp (ipToString ip).toList = some ip) ∧
    (∀ ipinfo,
      (∀ request, negotiated lib request.message.pOptionsList .textPlain = .textPlain →
        AnswersWith lib json ipinfo request .textPlain (textBytes (textOutput ipinfo))) ∧
      (∀ request, negotiated lib request.message.pOptionsList .textPlain = .applicationJson →
        AnswersWith lib json ipinfo request .applicationJson (json.dump (output ipinfo))) ∧
      textBytes (textOutput ipinfo) ≠ [] ∧ (textBytes (textOutput ipinfo)).length ≤ 65535 ∧
      readText (textBytes (textOutput ipinfo)) = some ipinfo ∧
      readMembers (output ipinfo) = some ipinfo) ∧
    (∀ i j, textBytes (textOutput i) = textBytes (textOutput j) → i = j) ∧
    ∀ i j, memberStrings i = memberStrings j → i = j := by
  refine ⟨writeIp_eq, readIp_ipToString, fun ipinfo => ?_, fun _ _ => text_injective,
    fun _ _ => memberStrings_injective⟩
  obtain ⟨hnonempty, hshort⟩ := textOutput_fits ipinfo
  refine ⟨?_, ?_, hnonempty, hshort, readText_textOutput ipinfo, readMembers_output ipinfo⟩
  · exact fun request h => answers_encoded h rfl
  · exact fun request h => answers_encoded h rfl

def loopback : IpInfo := ⟨0x0100007f, 0x000000ff, 0⟩

theorem renderings_agree_loopback :
    ∃ body answered,
      handleRequest referenceLibrary (referenceJson []) (some loopback) {} {} =
        .ok (answered, .ok) ∧
      answered.getCode = .content ∧
      answered.getOption referenceLibrary 12 = (.ok, some (.coapUIntOption 12 0)) ∧
      answered.getPayload = (.ok, some body) ∧ readText body = some loopback := by
  obtain ⟨htext, _, hnonempty, hshort, hread, _⟩ :=
    (renderings_agree referenceLibrary (referenceJson [])).2.2.1 loopback
  obtain ⟨answered, hrun, hconveys⟩ := htext {} rfl {}
  obtain ⟨rfl, _⟩ := Prod.mk.inj (Except.ok.inj hrun)
  refine ⟨_, _, hrun, hconveys.code, hconveys.labelled ⟨reference_insertsOptions,
    reference_decodesShortUints, by simp, rfl⟩,
    hconveys.payload ⟨reference_copiesPayloads, hnonempty, hshort, rfl⟩, hread⟩

end WifiResource

end IoTNode
