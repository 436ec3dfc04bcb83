import IoTNode.OptionRoundTrip

set_option autoImplicit false

namespace IoTNode.Lobaro

open Coap Foundations

def Carriable (type : CoapOptionType) (bytes : List UInt8) : Prop :=
  ∃ option : ICoapOption, option.type = type ∧ Carries option bytes

structure Uncorrupted (lib : LobaroLibrary) (optionsList : List CoAPOption) (number : UInt16) :
    Prop where
  absent : (∀ node ∈ optionsList, node.number ≠ number) →
    (getOption lib optionsList number).1 = .error
  carriable : ∀ node, optionsList.find? (numbered number) = some node →
    ¬ Carriable (optionType number) node.bytes → (getOption lib optionsList number).1 = .error
  carries : ∀ node, optionsList.find? (numbered number) = some node →
    (getOption lib optionsList number).1 = .ok →
      ∃ option, (getOption lib optionsList number).2 = some option ∧ option.number = number ∧
        Carries option node.bytes

def Readable (number : UInt16) (node : CoAPOption) : Prop :=
  match optionType number with
  | .empty => node.bytes = []
  | .opaqueBytes => True
  | .string => True
  | .uInt => node.length ≤ 4 ∨ ∀ byte ∈ node.bytes, byte = 0

section Readable

variable {lib : LobaroLibrary} {optionsList : List CoAPOption} {number : UInt16} {node : CoAPOption}

theorem readOption_number : (readOption lib number node).number = number := by
  unfold readOption
  cases optionType number <;> rfl

theorem readOption_type : (readOption lib number node).type = optionType number := by
  unfold readOption
  cases optionType number <;> rfl

theorem getUint_carried (hd : DecodesShortUints lib) (hl : RejectsLongUints lib) :
    (lib.getUintFromOption node 0).2.toNat = bigEndianValue node.bytes ↔
      node.length ≤ 4 ∨ ∀ byte ∈ node.bytes, byte = 0 := by
  by_cases hshort : node.length ≤ 4
  · obtain ⟨decoded, hdecoded, hvalue⟩ := hd node 0 hshort
    rw [hdecoded]
    exact iff_of_true hvalue (Or.inl hshort)
  · -- the error is ignored and the value stays 0
    obtain ⟨code, hcode⟩ := hl node 0 hshort
    rw [hcode, or_iff_right hshort, ← bigEndianValue_eq_zero]
    exact eq_comm

theorem readOption_carries_iff (hd : DecodesShortUints lib) (hl : RejectsLongUints lib) :
    Carries (readOption lib number node) node.bytes ↔ Readable number node := by
  unfold readOption Readable
  cases optionType number with
  | empty => exact Iff.rfl
  | opaqueBytes => exact iff_of_true rfl trivial
  | string => exact iff_of_true rfl trivial
  | uInt => exact getUint_carried hd hl

theorem uncorrupted_of_carries
    (h : ∀ node, optionsList.find? (numbered number) = some node →
      Carries (readOption lib number node) node.bytes) : Uncorrupted lib optionsList number where
  absent ha := by
    rw [getOption_absent (List.find?_eq_none.mpr fun node hnode hn =>
      ha node hnode ((numbered_iff number node).mp hn))]
  carriable node hf hc := absurd ⟨_, readOption_type, h node hf⟩ hc
  carries node hf _ := by
    rw [getOption_found hf]
    exact ⟨_, rfl, readOption_number, h node hf⟩

end Readable

theorem uncorrupted_iff (lib : LobaroLibrary) (hd : DecodesShortUints lib)
    (hl : RejectsLongUints lib) (optionsList : List CoAPOption) (number : UInt16) :
    Uncorrupted lib optionsList number ↔
      ∀ node, optionsList.find? (numbered number) = some node → Readable number node := by
  constructor
  · intro h node hf
    obtain ⟨option, hoption, _, hcarries⟩ := h.carries node hf (by rw [getOption_found hf])
    rw [getOption_found hf] at hoption
    obtain rfl := Option.some.inj hoption
    exact (readOption_carries_iff hd hl).mp hcarries
  · intro h
    exact uncorrupted_of_carries (fun node hf => (readOption_carries_iff hd hl).mpr (h node hf))

theorem uncorrupted_iff_accept :
    Uncorrupted referenceLibrary [⟨17, 2, [0x27, 0x10]⟩] 17 :=
  (uncorrupted_iff referenceLibrary reference_decodesShortUints reference_rejectsLongUints _ _).mpr
    (fun _ hf => Option.some.inj hf ▸ Or.inl (by decide))

theorem uncorrupted_counterexample :
    ¬ Uncorrupted referenceLibrary [⟨6, 1, [1]⟩] 6 ∧
    ¬ Uncorrupted referenceLibrary [⟨17, 5, [1, 0, 0, 0, 60]⟩] 17 := by
  constructor
  · intro h
    obtain ⟨option, hoption, _, hcarries⟩ := h.carries _ rfl rfl
    obtain rfl := Option.some.inj hoption
    exact absurd hcarries (by decide)
  · intro h
    obtain ⟨option, hoption, _, hcarries⟩ := h.carries _ rfl rfl
    obtain rfl := Option.some.inj hoption
    exact absurd hcarries (by decide)

end IoTNode.Lobaro
