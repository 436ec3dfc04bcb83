import IoTNode.Foundations.BigEndian
import IoTNode.Foundations.Lists
import IoTNode.LobaroMessages
import Mathlib.Data.List.Induction

set_option autoImplicit false

namespace IoTNode.Lobaro

open Coap Foundations

structure CoAPOption.Holds (node : CoAPOption) (number : UInt16) (bytes : List UInt8) : Prop where
  number : node.number = number
  length : node.length.toNat = bytes.length
  bytes : node.bytes = bytes

/-! What lobaro-coap documents, as assumptions on a library. -/

structure InsertsOptions (lib : LobaroLibrary) : Prop where
  appendUint : ∀ optionsList number value optionsList',
    lib.appendUintOptionToList optionsList number value = (.ok, optionsList') →
      ∃ node, Inserted node optionsList optionsList' ∧ node.Holds number (minimalBytes value)
  copy : ∀ optionsList option optionsList', option.length.toNat ≤ option.value.length →
    lib.copyOptionToList optionsList option = (.ok, optionsList') →
      ∃ node, Inserted node optionsList optionsList' ∧ node.Holds option.number option.bytes

def DecodesShortUints (lib : LobaroLibrary) : Prop :=
  ∀ option value, option.length ≤ 4 → ∃ decoded,
    lib.getUintFromOption option value = (.ok, decoded) ∧
      decoded.toNat = bigEndianValue option.bytes

def RejectsLongUints (lib : LobaroLibrary) : Prop :=
  ∀ option value, ¬ option.length ≤ 4 → ∃ code,
    lib.getUintFromOption option value = (.error code, value)

structure RemovesOptions (lib : LobaroLibrary) : Prop where
  find : ∀ message number, lib.findOptionByNumber message number =
    message.pOptionsList.findIdx? (fun node => node.number == number)
  remove : ∀ optionsList position,
    lib.removeOptionFromList optionsList position = optionsList.eraseIdx position

structure FailsCleanly (lib : LobaroLibrary) : Prop where
  appendUint : ∀ optionsList number value code optionsList',
    lib.appendUintOptionToList optionsList number value = (.error code, optionsList') →
      optionsList' = optionsList
  copy : ∀ optionsList option code optionsList',
    lib.copyOptionToList optionsList option = (.error code, optionsList') →
      optionsList' = optionsList

section Reference

theorem insertOption_inserted (optionsList : List CoAPOption) (option : CoAPOption) :
    Inserted option optionsList (insertOption optionsList option) := by
  induction optionsList with
  | nil => exact Inserted.head option []
  | cons o os ih =>
    unfold insertOption
    split_ifs with h
    · exact Inserted.head option (o :: os)
    · exact ih.cons o

theorem bigEndian_snoc (bytes : List UInt8) (byte : UInt8) :
    bigEndian (bytes ++ [byte]) = (bigEndian bytes <<< 8) ||| byte.toUInt32 := by
  unfold bigEndian
  rw [List.foldl_append, List.foldl_cons, List.foldl_nil]

theorem shiftIn_toNat {value : UInt32} {byte : UInt8} (h : value.toNat < 2 ^ 24) :
    ((value <<< 8) ||| byte.toUInt32).toNat = 256 * value.toNat + byte.toNat := by
  have hb := byte.toNat_lt
  have hshift : (value <<< 8).toNat = value.toNat <<< 8 := by
    rw [UInt32.toNat_shiftLeft]
    change value.toNat <<< 8 % 4294967296 = _
    rw [Nat.shiftLeft_eq]
    omega
  rw [UInt32.toNat_or, UInt8.toNat_toUInt32, hshift, ← Nat.shiftLeft_add_eq_or_of_lt hb,
    Nat.shiftLeft_eq]
  omega

theorem bigEndian_toNat {bytes : List UInt8} (h : bytes.length ≤ 4) :
    (bigEndian bytes).toNat = bigEndianValue bytes := by
  induction bytes using List.reverseRecOn with
  | nil => rfl
  | append_singleton bytes byte ih =>
    rw [List.length_append, List.length_singleton] at h
    have hv := ih (by omega)
    have hlt : bigEndianValue bytes < 2 ^ 24 :=
      calc bigEndianValue bytes < 256 ^ bytes.length := bigEndianValue_lt bytes
        _ ≤ 256 ^ 3 := Nat.pow_le_pow_right (by omega) (by omega)
        _ = 2 ^ 24 := by decide
    rw [bigEndian_snoc, bigEndianValue_snoc, shiftIn_toNat (hv ▸ hlt), hv]

theorem minimalBytes_length (value : UInt32) : (minimalBytes value).length ≤ 4 :=
  (List.dropWhile_sublist _).length_le

theorem minimalBytes_value (value : UInt32) :
    bigEndianValue (minimalBytes value) = value.toNat := by
  have hv := value.toNat_lt
  unfold minimalBytes
  rw [bigEndianValue_dropWhile]
  simp only [bigEndianValue_cons, bigEndianValue_nil, List.length_cons, List.length_nil,
    UInt32.toNat_toUInt8, UInt32.toNat_shiftRight, Nat.shiftRight_eq_div_pow]
  change 256 ^ 3 * (value.toNat / 2 ^ 24 % 256) + (256 ^ 2 * (value.toNat / 2 ^ 16 % 256) +
    (256 ^ 1 * (value.toNat / 2 ^ 8 % 256) + (256 ^ 0 * (value.toNat % 256) + 0))) = value.toNat
  omega

theorem reference_insertsOptions : InsertsOptions referenceLibrary where
  appendUint optionsList number value optionsList' h := by
    have hl := minimalBytes_length value
    obtain rfl := (Prod.mk.inj h).2
    have hlength : (UInt16.ofNat (minimalBytes value).length).toNat = (minimalBytes value).length :=
      UInt16.toNat_ofNat_of_lt' (Nat.lt_of_le_of_lt hl (by decide))
    refine ⟨_, insertOption_inserted optionsList _, rfl, hlength, ?_⟩
    unfold CoAPOption.bytes
    dsimp only
    rw [hlength, List.take_length]
  copy optionsList option optionsList' hl h := by
    obtain rfl := (Prod.mk.inj h).2
    refine ⟨_, insertOption_inserted optionsList _, rfl, ?_, ?_⟩
    · unfold CoAPOption.bytes
      rw [List.length_take, Nat.min_eq_left hl]
    · unfold CoAPOption.bytes
      rw [List.take_take, Nat.min_self]

theorem CoAPOption.bytes_length_le (option : CoAPOption) :
    option.bytes.length ≤ option.length.toNat := List.length_take_le _ _

theorem reference_decodesShortUints : DecodesShortUints referenceLibrary := by
  intro option value h
  have hl : option.length.toNat ≤ 4 := UInt16.le_iff_toNat_le.mp h
  refine ⟨bigEndian option.bytes, if_neg (UInt16.not_lt.mpr h), bigEndian_toNat ?_⟩
  exact (option.bytes_length_le).trans hl

theorem reference_rejectsLongUints : RejectsLongUints referenceLibrary :=
  fun _ _ h => ⟨1, if_pos (UInt16.not_le.mp h)⟩

theorem reference_removesOptions : RemovesOptions referenceLibrary :=
  ⟨fun _ _ => rfl, fun _ _ => rfl⟩

end Reference

/-- The option object stands for the value that these bytes encode. -/
def Carries : ICoapOption → List UInt8 → Prop
  | .coapEmptyOption _, bytes => bytes = []
  | .coapOpaqueOption _ data, bytes => data = bytes
  | .coapStringOption _ data, bytes => data = bytes
  | .coapUIntOption _ value, bytes => value.toNat = bigEndianValue bytes

instance : (option : ICoapOption) → (bytes : List UInt8) → Decidable (Carries option bytes)
  | .coapEmptyOption _, bytes => inferInstanceAs (Decidable (bytes = []))
  | .coapOpaqueOption _ data, bytes => inferInstanceAs (Decidable (data = bytes))
  | .coapStringOption _ data, bytes => inferInstanceAs (Decidable (data = bytes))
  | .coapUIntOption _ value, bytes =>
    inferInstanceAs (Decidable (value.toNat = bigEndianValue bytes))

def encoded : ICoapOption → List UInt8
  | .coapUIntOption _ value => minimalBytes value
  | option => (option.getPtr.getD []).take (UInt16.ofNat option.getSize).toNat

def insertion (lib : LobaroLibrary) (optionsList : List CoAPOption) :
    ICoapOption → CoAPResult × List CoAPOption
  | .coapUIntOption number value => lib.appendUintOptionToList optionsList number value
  | option =>
    lib.copyOptionToList optionsList
      ⟨option.number, UInt16.ofNat option.getSize, option.getPtr.getD []⟩

def Stores (lib : LobaroLibrary) (optionsList : List CoAPOption) (option : ICoapOption) : Prop :=
  (insertion lib optionsList option).1 = .ok

section Encoding

theorem carries_encoded (option : ICoapOption) :
    Carries option (encoded option) ↔ option.getSize ≤ 65535 := by
  have hsize : ∀ data : List UInt8, data = data.take (UInt16.ofNat data.length).toNat ↔
      data.length ≤ 65535 := by
    intro data
    have hmod : (UInt16.ofNat data.length).toNat = data.length % 65536 := UInt16.toNat_ofNat'
    rw [hmod]
    constructor
    · intro h
      have hlength := congrArg List.length h
      rw [List.length_take] at hlength
      omega
    · intro h
      rw [List.take_of_length_le (by omega)]
  cases option with
  | coapEmptyOption n => exact iff_of_true rfl (Nat.zero_le _)
  | coapOpaqueOption n data => exact hsize data
  | coapStringOption n data => exact hsize data
  | coapUIntOption n value =>
    refine iff_of_true (minimalBytes_value value).symm ?_
    dsimp only [ICoapOption.getSize]
    split_ifs <;> decide

theorem addOption_eq (lib : LobaroLibrary) (optionsList : List CoAPOption) (option : ICoapOption) :
    addOption lib optionsList option =
      ((insertion lib optionsList option).2,
        toCoapResult (insertion lib optionsList option).1) := by
  cases option <;> rfl

theorem addOption_stores (lib : LobaroLibrary) (optionsList : List CoAPOption)
    (option : ICoapOption) :
    (addOption lib optionsList option).2 = .ok ↔ Stores lib optionsList option := by
  rw [addOption_eq]
  exact toCoapResult_ok_iff _

theorem addOption_ok {lib : LobaroLibrary} (hi : InsertsOptions lib)
    {optionsList : List CoAPOption} {option : ICoapOption} (h : Stores lib optionsList option) :
    ∃ node, Inserted node optionsList (addOption lib optionsList option).1 ∧
      node.Holds option.number (encoded option) := by
  have hcopy : ∀ data : List UInt8, (UInt16.ofNat data.length).toNat ≤ data.length := by
    intro data
    rw [UInt16.toNat_ofNat']
    exact Nat.mod_le _ _
  rw [addOption_eq]
  cases option with
  | coapUIntOption number value =>
    exact hi.appendUint optionsList number value _ (Prod.ext h rfl)
  | coapEmptyOption number =>
    exact hi.copy optionsList ⟨number, 0, []⟩ _ (Nat.le_refl 0) (Prod.ext h rfl)
  | coapOpaqueOption number data =>
    exact hi.copy optionsList ⟨number, UInt16.ofNat data.length, data⟩ _ (hcopy data)
      (Prod.ext h rfl)
  | coapStringOption number data =>
    exact hi.copy optionsList ⟨number, UInt16.ofNat data.length, data⟩ _ (hcopy data)
      (Prod.ext h rfl)

theorem addOption_fails {lib : LobaroLibrary} (hf : FailsCleanly lib)
    {optionsList : List CoAPOption} {option : ICoapOption} (h : ¬ Stores lib optionsList option) :
    addOption lib optionsList option = (optionsList, .error) := by
  unfold Stores at h
  rw [addOption_eq]
  cases hins : insertion lib optionsList option with
  | mk result optionsList' =>
    rw [hins] at h
    cases result with
    | ok => exact absurd rfl h
    | error code =>
      have hkept : optionsList' = optionsList := by
        cases option with
        | coapUIntOption number value => exact hf.appendUint _ _ _ _ _ hins
        | coapEmptyOption number => exact hf.copy _ _ _ _ hins
        | coapOpaqueOption number data => exact hf.copy _ _ _ _ hins
        | coapStringOption number data => exact hf.copy _ _ _ _ hins
      rw [hkept]
      rfl

end Encoding

end IoTNode.Lobaro
