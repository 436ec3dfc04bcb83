import IoTNode.CompleteResponses
import IoTNode.OptionRoundTrip

set_option autoImplicit false

namespace IoTNode.Lobaro

open Coap Foundations

def withoutFirst (optionsList : List CoAPOption) (number : UInt16) : List CoAPOption :=
  optionsList.eraseP (numbered number)

structure Replaced (lib : LobaroLibrary) (before after : List CoAPOption) (option : ICoapOption) :
    Prop where
  one : ∃ node, after.filter (numbered option.number) = [node] ∧ Carries option node.bytes
  others : after.filter (fun node => !numbered option.number node) =
    before.filter (fun node => !numbered option.number node)
  reads : Known option → getOption lib after option.number = (.ok, some option)

section SetOption

variable {lib : LobaroLibrary} {self : LobaroCoapMessage} {option : ICoapOption}
  {before after : List CoAPOption} {node : CoAPOption}

theorem setOption_list (hr : RemovesOptions lib) (self : LobaroCoapMessage) (option : ICoapOption) :
    (self.setOption lib option).1.message.pOptionsList =
        (addOption lib (withoutFirst self.message.pOptionsList option.number) option).1 ∧
      (self.setOption lib option).2 =
        (addOption lib (withoutFirst self.message.pOptionsList option.number) option).2 := by
  unfold LobaroCoapMessage.setOption withoutFirst
  rw [List.eraseP_eq_eraseIdx, hr.find]
  unfold numbered
  cases List.findIdx? (fun node => node.number == option.number) self.message.pOptionsList with
  | none => exact ⟨rfl, rfl⟩
  | some position =>
    dsimp only
    rw [hr.remove]
    exact ⟨rfl, rfl⟩

theorem replaced_iff (hd : DecodesShortUints lib)
    (hi : Inserted node (withoutFirst before option.number) after)
    (hn : node.Holds option.number (encoded option)) :
    Replaced lib before after option ↔
      (before.filter (numbered option.number)).length ≤ 1 ∧ option.getSize ≤ 65535 := by
  have hnode : numbered option.number node = true := (numbered_iff _ node).mpr hn.number
  -- the old nodes with the number, but for the first, and the new one
  have hsame := hi.filter hnode
  rw [withoutFirst, filter_eraseP] at hsame
  constructor
  · rintro ⟨⟨only, hone, hcarries⟩, _, _⟩
    rw [hone] at hsame
    have hlength := hsame.length
    rw [List.length_tail, List.length_singleton] at hlength
    refine ⟨by omega, (carries_encoded option).mp ?_⟩
    rw [← hn.bytes, List.mem_singleton.mp hsame.mem]
    exact hcarries
  · rintro ⟨hlength, hs⟩
    have htail : (before.filter (numbered option.number)).tail = [] := by
      apply List.eq_nil_of_length_eq_zero
      rw [List.length_tail]
      omega
    rw [htail] at hsame
    refine ⟨⟨node, hsame.nil, ?_⟩, ?_, ?_⟩
    · rw [hn.bytes]
      exact (carries_encoded option).mpr hs
    · rw [hi.filter_of_not (p := fun node => !numbered option.number node) (by simp [hnode])]
      exact filter_not_eraseP _ _
    · intro hk
      have hfound : after.find? (numbered option.number) = some node := by
        rw [← List.head?_filter, hsame.nil, List.head?_cons]
      rw [getOption_found hfound, readOption_encoded hd hk hs hn]

end SetOption

theorem setOption_replaces_iff (lib : LobaroLibrary) (hi : InsertsOptions lib)
    (hd : DecodesShortUints lib) (hr : RemovesOptions lib) (self : LobaroCoapMessage)
    (option : ICoapOption) :
    ((self.setOption lib option).2 = .ok →
      Replaced lib self.message.pOptionsList (self.setOption lib option).1.message.pOptionsList
        option) ↔
    (Stores lib (withoutFirst self.message.pOptionsList option.number) option →
      (self.message.pOptionsList.filter (numbered option.number)).length ≤ 1 ∧
        option.getSize ≤ 65535) := by
  obtain ⟨hlist, hresult⟩ := setOption_list hr self option
  rw [hlist, hresult, addOption_stores]
  apply imp_congr_right
  intro hs
  obtain ⟨node, hnode, hn⟩ := addOption_ok hi hs
  exact replaced_iff hd hnode hn

def oneFormat : LobaroCoapMessage :=
  { message := { pOptionsList := [⟨11, 1, [0x61]⟩, ⟨12, 0, []⟩] } }

theorem setOption_replaces_format :
    Replaced referenceLibrary oneFormat.message.pOptionsList
      (oneFormat.setOption referenceLibrary (.coapUIntOption 12 60)).1.message.pOptionsList
      (.coapUIntOption 12 60) :=
  (setOption_replaces_iff referenceLibrary reference_insertsOptions reference_decodesShortUints
    reference_removesOptions oneFormat (.coapUIntOption 12 60)).mpr (fun _ => by decide) rfl

def twoSegments : LobaroCoapMessage :=
  { message := { pOptionsList := [⟨11, 1, [0x61]⟩, ⟨11, 1, [0x62]⟩] } }

theorem setOption_replaces_counterexample :
    ¬ ((twoSegments.setOption referenceLibrary (.coapStringOption 11 [0x63])).2 = .ok →
      Replaced referenceLibrary twoSegments.message.pOptionsList
        (twoSegments.setOption referenceLibrary (.coapStringOption 11 [0x63])).1.message.pOptionsList
        (.coapStringOption 11 [0x63])) := by
  intro h
  obtain ⟨node, hone, _⟩ := (h rfl).one
  have htwo : (2 : ℕ) = 1 := congrArg List.length hone
  exact absurd htwo (by decide)

theorem setOption_atomic_iff (lib : LobaroLibrary) (hf : FailsCleanly lib) (hr : RemovesOptions lib)
    (self : LobaroCoapMessage) (option : ICoapOption) :
    ((self.setOption lib option).2 = .error →
      (self.setOption lib option).1.message.pOptionsList = self.message.pOptionsList) ↔
    Stores lib (withoutFirst self.message.pOptionsList option.number) option ∨
      ∀ node ∈ self.message.pOptionsList, node.number ≠ option.number := by
  obtain ⟨hlist, hresult⟩ := setOption_list hr self option
  rw [hlist, hresult]
  have habsent : withoutFirst self.message.pOptionsList option.number = self.message.pOptionsList ↔
      ∀ node ∈ self.message.pOptionsList, node.number ≠ option.number := by
    simp [withoutFirst]
  by_cases hs : Stores lib (withoutFirst self.message.pOptionsList option.number) option
  · refine iff_of_true (fun he => ?_) (Or.inl hs)
    rw [(addOption_stores lib _ option).mpr hs] at he
    cases he
  · rw [addOption_fails hf hs, or_iff_right hs, ← habsent]
    exact ⟨fun h => h rfl, fun h _ => h⟩

theorem outOfMemory_failsCleanly : FailsCleanly outOfMemory where
  appendUint _ _ _ _ _ h := (Prod.mk.inj h).2.symm
  copy _ _ _ _ h := by cases h

theorem setOption_atomic_plain :
    (plainGet.setOption outOfMemory (.coapUIntOption 12 60)).1.message.pOptionsList = [] :=
  (setOption_atomic_iff outOfMemory outOfMemory_failsCleanly ⟨fun _ _ => rfl, fun _ _ => rfl⟩ plainGet
    (.coapUIntOption 12 60)).mpr (Or.inr (fun _ hn => by cases hn)) rfl

theorem setOption_atomic_counterexample :
    ¬ ((oneFormat.setOption outOfMemory (.coapUIntOption 12 60)).2 = .error →
      (oneFormat.setOption outOfMemory (.coapUIntOption 12 60)).1.message.pOptionsList =
        oneFormat.message.pOptionsList) := by
  decide

end IoTNode.Lobaro
