import IoTNode.OptionContracts

set_option autoImplicit false

namespace IoTNode.Lobaro

open Coap Foundations

def numbered (number : UInt16) (node : CoAPOption) : Bool := node.number == number

@[simp] theorem numbered_iff (number : UInt16) (node : CoAPOption) :
    numbered number node = true ↔ node.number = number := beq_iff_eq

def readOption (lib : LobaroLibrary) (number : UInt16) (node : CoAPOption) : ICoapOption :=
  match optionType number with
  | .empty => .coapEmptyOption number
  | .opaqueBytes => .coapOpaqueOption number node.bytes
  | .string => .coapStringOption number node.bytes
  | .uInt => .coapUIntOption number (lib.getUintFromOption node 0).2

def Known (option : ICoapOption) : Prop :=
  ∃ entry ∈ coapOptiontypeMap, option.number = entry.1.number ∧ option.type = entry.2

section Reading

variable {lib : LobaroLibrary} {optionsList optionsList' : List CoAPOption} {number : UInt16}
  {node : CoAPOption} {option : ICoapOption}

theorem getOption_absent (h : optionsList.find? (numbered number) = none) :
    getOption lib optionsList number = (.error, none) := by
  unfold getOption
  rw [show optionsList.find? (fun opt => opt.number == number) = none from h]

theorem getOption_found (h : optionsList.find? (numbered number) = some node) :
    getOption lib optionsList number = (.ok, some (readOption lib number node)) := by
  unfold getOption readOption
  rw [show optionsList.find? (fun opt => opt.number == number) = some node from h]
  cases optionType number <;> rfl

theorem getOption_congr
    (h : optionsList'.find? (numbered number) = optionsList.find? (numbered number)) :
    getOption lib optionsList' number = getOption lib optionsList number := by
  cases hf : optionsList.find? (numbered number) with
  | none => rw [getOption_absent hf, getOption_absent (h.trans hf)]
  | some node => rw [getOption_found hf, getOption_found (h.trans hf)]

theorem optionType_table : ∀ entry ∈ coapOptiontypeMap, optionType entry.1.number = entry.2 := by
  decide

theorem Known.optionType (h : Known option) : Lobaro.optionType option.number = option.type := by
  obtain ⟨entry, hentry, hnumber, htype⟩ := h
  rw [hnumber, htype, optionType_table entry hentry]

theorem readOption_encoded (hd : DecodesShortUints lib) (hk : Known option)
    (hs : option.getSize ≤ 65535) (hn : node.Holds option.number (encoded option)) :
    readOption lib option.number node = option := by
  have hcarried : Carries option node.bytes := by
    rw [hn.bytes]
    exact (carries_encoded option).mpr hs
  have htype := hk.optionType
  unfold readOption
  rw [htype]
  cases option with
  | coapEmptyOption n => rfl
  | coapOpaqueOption n data => exact congrArg _ hcarried.symm
  | coapStringOption n data => exact congrArg _ hcarried.symm
  | coapUIntOption n value =>
    have hshort : node.length ≤ 4 := by
      rw [UInt16.le_iff_toNat_le, hn.length]
      exact minimalBytes_length value
    obtain ⟨decoded, hdecoded, hvalue⟩ := hd node 0 hshort
    have hsame : (lib.getUintFromOption node 0).2 = value := by
      rw [hdecoded]
      exact UInt32.toNat_inj.mp (hvalue.trans hcarried.symm)
    exact congrArg _ hsame

end Reading

def ReadsBack (lib : LobaroLibrary) (before after : List CoAPOption) (option : ICoapOption) : Prop :=
  getOption lib after option.number = (.ok, some option) ∧
    ∀ m, m ≠ option.number → getOption lib after m = getOption lib before m

theorem filter_absent {optionsList : List CoAPOption} {number : UInt16}
    (h : ∀ node ∈ optionsList, node.number ≠ number) :
    optionsList.filter (numbered number) = [] := by
  rw [List.filter_eq_nil_iff]
  exact fun node hnode hn => h node hnode ((numbered_iff number node).mp hn)

theorem inserted_readsBack {lib : LobaroLibrary} (hd : DecodesShortUints lib)
    {before after : List CoAPOption} {option : ICoapOption} {node : CoAPOption} (hk : Known option)
    (hs : option.getSize ≤ 65535) (hn : node.Holds option.number (encoded option))
    (hi : Inserted node before after) (ha : ∀ node ∈ before, node.number ≠ option.number) :
    ReadsBack lib before after option := by
  constructor
  · have hfound := hi.find?_of_first ((numbered_iff _ node).mpr hn.number) (filter_absent ha)
    rw [getOption_found hfound, readOption_encoded hd hk hs hn]
  · intro m hm
    apply getOption_congr
    apply hi.find?_of_not
    rw [Bool.eq_false_iff]
    intro h
    exact hm (((numbered_iff m node).mp h).symm.trans hn.number)

theorem getOption_addOption (lib : LobaroLibrary) (hi : InsertsOptions lib)
    (hd : DecodesShortUints lib) (option : ICoapOption) (hk : Known option)
    (hs : option.getSize ≤ 65535) :
    (∀ message message' : LobaroCoapMessage,
      (∀ node ∈ message.message.pOptionsList, node.number ≠ option.number) →
      message.addOption lib option = (message', .ok) →
      message'.getOption lib option.number = (.ok, some option) ∧
        ∀ m, m ≠ option.number → message'.getOption lib m = message.getOption lib m) ∧
    ∀ observer observer' : LobaroCoapObserver,
      (∀ node ∈ observer.observer.pOptList, node.number ≠ option.number) →
      observer.addOption lib option = (observer', .ok) →
      observer'.getOption lib option.number = (.ok, some option) ∧
        ∀ m, m ≠ option.number → observer'.getOption lib m = observer.getOption lib m := by
  constructor
  · intro message message' ha h
    obtain ⟨rfl, hok⟩ := Prod.mk.inj h
    obtain ⟨node, hnode, hn⟩ := addOption_ok hi ((addOption_stores lib _ option).mp hok)
    exact inserted_readsBack hd hk hs hn hnode ha
  · intro observer observer' ha h
    obtain ⟨rfl, hok⟩ := Prod.mk.inj h
    obtain ⟨node, hnode, hn⟩ := addOption_ok hi ((addOption_stores lib _ option).mp hok)
    exact inserted_readsBack hd hk hs hn hnode ha

def pathOptions : List CoAPOption := [⟨11, 3, [0x6c, 0x65, 0x64]⟩, ⟨12, 1, [50]⟩]

theorem getOption_addOption_accept :
    getOption referenceLibrary
        (addOption referenceLibrary pathOptions (.coapUIntOption 17 0x10000)).1 17 =
      (.ok, some (.coapUIntOption 17 0x10000)) :=
  ((getOption_addOption referenceLibrary reference_insertsOptions reference_decodesShortUints
    (.coapUIntOption 17 0x10000) ⟨(.accept, .uInt), by decide, rfl, rfl⟩ (by decide)).1
    ⟨⟨.get, pathOptions, none, 0, none⟩, []⟩ _ (by decide) rfl).1

end IoTNode.Lobaro
