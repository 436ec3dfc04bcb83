import IoTNode.Foundations.Histories
import IoTNode.Foundations.Simulations
import IoTNode.OptionReplacement
import Mathlib.Data.List.Induction

set_option autoImplicit false

namespace IoTNode.Lobaro

open Coap Foundations

def Ordered (optionsList : List CoAPOption) : Prop :=
  optionsList.Pairwise (fun first second => first.number.toNat ≤ second.number.toNat)

/-- The library keeps the list in the order of the numbers, and in that of the calls for each. -/
structure InsertsInOrder (lib : LobaroLibrary) : Prop where
  appendUint : ∀ optionsList number value optionsList', Ordered optionsList →
    lib.appendUintOptionToList optionsList number value = (.ok, optionsList') →
      ∃ node, Placed (fun node : CoAPOption => node.number.toNat) node optionsList optionsList' ∧
        node.Holds number (minimalBytes value)
  copy : ∀ optionsList option optionsList', Ordered optionsList →
    option.length.toNat ≤ option.value.length →
    lib.copyOptionToList optionsList option = (.ok, optionsList') →
      ∃ node, Placed (fun node : CoAPOption => node.number.toNat) node optionsList optionsList' ∧
        node.Holds option.number option.bytes

section Reference

theorem insertOption_placed {optionsList : List CoAPOption} {option : CoAPOption}
    (h : Ordered optionsList) :
    Placed (fun node => node.number.toNat) option optionsList (insertOption optionsList option) := by
  induction optionsList with
  | nil =>
    exact ⟨[], [], rfl, rfl, fun _ hb => absurd hb List.not_mem_nil,
      fun _ hb => absurd hb List.not_mem_nil⟩
  | cons o os ih =>
    obtain ⟨hfirst, hrest⟩ := List.pairwise_cons.mp h
    unfold insertOption
    split_ifs with hlt
    · have hlt : option.number.toNat < o.number.toNat := UInt16.lt_iff_toNat_lt.mp hlt
      refine ⟨[], o :: os, rfl, rfl, fun _ hb => absurd hb List.not_mem_nil, ?_⟩
      intro b hb
      rcases List.mem_cons.mp hb with rfl | hb
      · exact hlt
      · exact Nat.lt_of_lt_of_le hlt (hfirst b hb)
    · have hle : o.number.toNat ≤ option.number.toNat :=
        Nat.le_of_not_lt (fun hlt' => hlt (UInt16.lt_iff_toNat_lt.mpr hlt'))
      obtain ⟨before, after, rfl, hl, hbefore, hafter⟩ := ih hrest
      refine ⟨o :: before, after, rfl, ?_, ?_, hafter⟩
      · rw [hl, List.cons_append]
      · intro b hb
        rcases List.mem_cons.mp hb with rfl | hb
        · exact hle
        · exact hbefore b hb

theorem reference_insertsInOrder : InsertsInOrder referenceLibrary where
  appendUint optionsList number value optionsList' hs h := by
    have hl := minimalBytes_length value
    obtain rfl := (Prod.mk.inj h).2
    have hlength : (UInt16.ofNat (minimalBytes value).length).toNat = (minimalBytes value).length :=
      UInt16.toNat_ofNat_of_lt' (Nat.lt_of_le_of_lt hl (by decide))
    refine ⟨_, insertOption_placed hs, rfl, hlength, ?_⟩
    unfold CoAPOption.bytes
    dsimp only
    rw [hlength, List.take_length]
  copy optionsList option optionsList' hs hl h := by
    obtain rfl := (Prod.mk.inj h).2
    refine ⟨_, insertOption_placed hs, rfl, ?_, ?_⟩
    · unfold CoAPOption.bytes
      rw [List.length_take, Nat.min_eq_left hl]
    · unfold CoAPOption.bytes
      rw [List.take_take, Nat.min_self]

end Reference

inductive OptionCall
  | add (option : ICoapOption)
  | set (option : ICoapOption)

def OptionCall.option : OptionCall → ICoapOption
  | .add option => option
  | .set option => option

/-- What the options of a message are for: of each number a queue of values, read from its front. -/
abbrev OptionStore := UInt16 → List ICoapOption

namespace OptionStore

variable (store : OptionStore) (option : ICoapOption)

def add : OptionStore :=
  Function.update store option.number (store option.number ++ [option])

def drop : OptionStore := Function.update store option.number (store option.number).tail

def apply : OptionCall × CoapResult → OptionStore
  | (.add option, result) => if result = .ok then store.add option else store
  -- what the call was to replace is gone all the same if it fails
  | (.set option, result) =>
    if result = .ok then (store.drop option).add option else store.drop option

def system : System OptionStore (OptionCall × CoapResult) where
  init store := store = fun _ => []
  step store outcome := some (store.apply outcome)

end OptionStore

namespace LobaroCoapMessage

variable (lib : LobaroLibrary) (self : LobaroCoapMessage)

def perform : OptionCall → LobaroCoapMessage × CoapResult
  | .add option => self.addOption lib option
  | .set option => self.setOption lib option

def optionSystem : System LobaroCoapMessage OptionCall where
  init self := self.message.pOptionsList = []
  step self call := some (self.perform lib call).1

def outcome (call : OptionCall) : List (OptionCall × CoapResult) :=
  [(call, (self.perform lib call).2)]

end LobaroCoapMessage

structure Queued (number : UInt16) (node : CoAPOption) (option : ICoapOption) : Prop where
  holds : node.Holds number (encoded option)
  number : option.number = number

structure Refines (optionsList : List CoAPOption) (store : OptionStore) : Prop where
  ordered : Ordered optionsList
  queues : ∀ number,
    List.Forall₂ (Queued number) (optionsList.filter (numbered number)) (store number)

section Steps

variable {lib : LobaroLibrary} {optionsList optionsList' : List CoAPOption} {store : OptionStore}
  {option : ICoapOption} {node : CoAPOption}

theorem addOption_placed (hi : InsertsInOrder lib) (hs : Ordered optionsList)
    (h : Stores lib optionsList option) :
    ∃ node, Placed (fun node : CoAPOption => node.number.toNat) node optionsList
        (addOption lib optionsList option).1 ∧ node.Holds option.number (encoded option) := by
  have hcopy : ∀ data : List UInt8, (UInt16.ofNat data.length).toNat ≤ data.length := by
    intro data
    rw [UInt16.toNat_ofNat']
    exact Nat.mod_le _ _
  rw [addOption_eq]
  cases option with
  | coapUIntOption number value =>
    exact hi.appendUint optionsList number value _ hs (Prod.ext h rfl)
  | coapEmptyOption number =>
    exact hi.copy optionsList ⟨number, 0, []⟩ _ hs (Nat.le_refl 0) (Prod.ext h rfl)
  | coapOpaqueOption number data =>
    exact hi.copy optionsList ⟨number, UInt16.ofNat data.length, data⟩ _ hs (hcopy data)
      (Prod.ext h rfl)
  | coapStringOption number data =>
    exact hi.copy optionsList ⟨number, UInt16.ofNat data.length, data⟩ _ hs (hcopy data)
      (Prod.ext h rfl)

theorem Refines.place (h : Refines optionsList store)
    (hp : Placed (fun node : CoAPOption => node.number.toNat) node optionsList optionsList')
    (hn : node.Holds option.number (encoded option)) :
    Refines optionsList' (store.add option) := by
  refine ⟨hp.pairwise h.ordered, ?_⟩
  intro number
  unfold OptionStore.add
  by_cases hnumber : number = option.number
  · subst hnumber
    have hsame : ∀ other : CoAPOption, numbered option.number other = true →
        other.number.toNat = node.number.toNat := by
      intro other hother
      rw [(numbered_iff _ other).mp hother, hn.number]
    rw [Function.update_self, hp.filter_same ((numbered_iff _ node).mpr hn.number) hsame]
    exact List.rel_append (h.queues option.number) (List.Forall₂.cons ⟨hn, rfl⟩ List.Forall₂.nil)
  · have hother : numbered number node = false := by
      rw [Bool.eq_false_iff]
      intro hnode
      exact hnumber (((numbered_iff number node).mp hnode).symm.trans hn.number)
    rw [Function.update_of_ne hnumber, hp.inserted.filter_of_not hother]
    exact h.queues number

theorem Refines.drop (h : Refines optionsList store) (option : ICoapOption) :
    Refines (withoutFirst optionsList option.number) (store.drop option) := by
  refine ⟨h.ordered.eraseP _, ?_⟩
  intro number
  unfold withoutFirst OptionStore.drop
  by_cases hnumber : number = option.number
  · subst hnumber
    rw [Function.update_self, filter_eraseP]
    exact forall₂_tail (h.queues option.number)
  · rw [Function.update_of_ne hnumber, filter_eraseP_of_not]
    · exact h.queues number
    · intro node hnode
      rw [Bool.eq_false_iff]
      intro hother
      exact hnumber (((numbered_iff number node).mp hnode).symm.trans
        ((numbered_iff _ node).mp hother))

theorem Refines.addOption (hi : InsertsInOrder lib) (hf : FailsCleanly lib)
    (h : Refines optionsList store) (option : ICoapOption) :
    Refines (Lobaro.addOption lib optionsList option).1
      (if (Lobaro.addOption lib optionsList option).2 = .ok then store.add option else store) := by
  by_cases hs : Stores lib optionsList option
  · rw [if_pos ((addOption_stores lib _ option).mpr hs)]
    obtain ⟨node, hplaced, hn⟩ := addOption_placed hi h.ordered hs
    exact h.place hplaced hn
  · rw [if_neg (fun hok => hs ((addOption_stores lib _ option).mp hok)), addOption_fails hf hs]
    exact h

theorem refines_perform (hi : InsertsInOrder lib) (hr : RemovesOptions lib) (hf : FailsCleanly lib)
    {self : LobaroCoapMessage} (h : Refines self.message.pOptionsList store) (call : OptionCall) :
    Refines (self.perform lib call).1.message.pOptionsList
      (store.apply (call, (self.perform lib call).2)) := by
  cases call with
  | add option => exact h.addOption hi hf option
  | set option =>
    obtain ⟨hlist, hresult⟩ := setOption_list hr self option
    have hdropped := (h.drop option).addOption hi hf option
    rw [← hlist, ← hresult] at hdropped
    exact hdropped

theorem refines_empty (h : optionsList = []) : Refines optionsList (fun _ => []) := by
  rw [h]
  exact ⟨List.Pairwise.nil, fun _ => List.Forall₂.nil⟩

theorem simulates_store (hi : InsertsInOrder lib) (hr : RemovesOptions lib)
    (hf : FailsCleanly lib) :
    OptionStore.system.Simulates (LobaroCoapMessage.optionSystem lib)
      (LobaroCoapMessage.outcome lib) (fun self store => Refines self.message.pOptionsList store) where
  start self hs := by
    exact ⟨fun _ => [], rfl, refines_empty hs⟩
  keep self store call t h ht := by
    obtain rfl := Option.some.inj ht
    exact ⟨_, rfl, refines_perform hi hr hf h call⟩

theorem Refines.reads (hd : DecodesShortUints lib) (h : Refines optionsList store)
    (number : UInt16) :
    (store number = [] → getOption lib optionsList number = (.error, none)) ∧
      ∀ option rest, store number = option :: rest → Known option → option.getSize ≤ 65535 →
        getOption lib optionsList number = (.ok, some option) := by
  have hqueue := h.queues number
  constructor
  · intro hempty
    rw [hempty, List.forall₂_nil_right_iff] at hqueue
    apply getOption_absent
    rw [← List.head?_filter, hqueue, List.head?_nil]
  · intro option rest hstore hk hs
    rw [hstore] at hqueue
    obtain ⟨node, nodes, ⟨hholds, rfl⟩, _, hnodes⟩ := List.forall₂_cons_right_iff.mp hqueue
    have hfound : optionsList.find? (numbered option.number) = some node := by
      rw [← List.head?_filter, hnodes, List.head?_cons]
    rw [getOption_found hfound, readOption_encoded hd hk hs hholds]

end Steps

/-- Whatever `AddOption` and `SetOption` do to a message, in any order and whichever of them fail,
`GetOption` reads the front of the queue of its number. -/
theorem message_refines_store (lib : LobaroLibrary) (hi : InsertsInOrder lib)
    (hr : RemovesOptions lib) (hf : FailsCleanly lib) (hd : DecodesShortUints lib)
    (message message' : LobaroCoapMessage) (calls : List OptionCall)
    (hempty : message.message.pOptionsList = [])
    (hrun : (LobaroCoapMessage.optionSystem lib).run message calls = some message') :
    ∃ store, OptionStore.system.run (fun _ => []) ((LobaroCoapMessage.optionSystem lib).trace
        (LobaroCoapMessage.outcome lib) message calls) = some store ∧
      Ordered message'.message.pOptionsList ∧
      ∀ number, (store number = [] → message'.getOption lib number = (.error, none)) ∧
        ∀ option rest, store number = option :: rest → Known option → option.getSize ≤ 65535 →
          message'.getOption lib number = (.ok, some option) := by
  obtain ⟨store, hstore, hrefines⟩ := (simulates_store hi hr hf).run (refines_empty hempty) hrun
  exact ⟨store, hstore, hrefines.ordered, hrefines.reads hd⟩

theorem message_refines_store_path :
    ∃ message', (LobaroCoapMessage.optionSystem referenceLibrary).run {}
        [.add (.coapStringOption 11 [0x61]), .add (.coapUIntOption 12 50),
          .add (.coapStringOption 11 [0x62]), .set (.coapStringOption 11 [0x63])] = some message' ∧
      message'.getOption referenceLibrary 11 = (.ok, some (.coapStringOption 11 [0x62])) := by
  obtain ⟨store, hstore, _, hreads⟩ := message_refines_store referenceLibrary
    reference_insertsInOrder reference_removesOptions
    ⟨fun _ _ _ _ _ h => (by cases h), fun _ _ _ _ h => (by cases h)⟩ reference_decodesShortUints
    {} _ [.add (.coapStringOption 11 [0x61]), .add (.coapUIntOption 12 50),
      .add (.coapStringOption 11 [0x62]), .set (.coapStringOption 11 [0x63])] rfl rfl
  obtain rfl := Option.some.inj hstore
  exact ⟨_, rfl, (hreads 11).2 (.coapStringOption 11 [0x62]) [.coapStringOption 11 [0x63]] rfl
    ⟨(.uriPath, .string), by decide, rfl, rfl⟩ (by decide)⟩

section Sets

/-- What a call leaves of a number: nothing if `SetOption` could not store the new option. -/
def leaves (number : UInt16) : OptionCall × CoapResult → Option (Option ICoapOption)
  | (call, result) =>
    if call.option.number = number then some (if result = .ok then some call.option else none)
    else none

variable {store : OptionStore} {outcomes : List (OptionCall × CoapResult)}

theorem store_of_sets (hsets : ∀ o ∈ outcomes, ∃ option, o.1 = .set option)
    (h : OptionStore.system.run (fun _ => []) outcomes = some store) (number : UInt16) :
    store number = (latest (leaves number) none outcomes).toList := by
  induction outcomes using List.reverseRecOn generalizing store with
  | nil =>
    obtain rfl := Option.some.inj h
    rfl
  | append_singleton outcomes last ih =>
    obtain ⟨earlier, hearlier, hlast⟩ := OptionStore.system.run_snoc_some.mp h
    obtain rfl := Option.some.inj hlast
    have hbefore := ih (fun o ho => hsets o (List.mem_append_left _ ho)) hearlier
    obtain ⟨option, hset⟩ := hsets last (List.mem_append_right _ (List.mem_singleton_self _))
    obtain ⟨call, result⟩ := last
    obtain rfl : call = .set option := hset
    have htail : (earlier number).tail = [] := by
      rw [hbefore]
      cases latest (leaves number) none outcomes <;> rfl
    have hleaves : leaves number (.set option, result) =
        if option.number = number then some (if result = .ok then some option else none)
        else none := rfl
    rw [latest_snoc, hleaves]
    unfold OptionStore.apply OptionStore.drop OptionStore.add
    by_cases hnumber : option.number = number
    · subst hnumber
      by_cases hok : result = .ok <;> simp [hok, htail]
    · have hother : number ≠ option.number := Ne.symm hnumber
      by_cases hok : result = .ok <;> simp [hok, hnumber, hother, hbefore]

end Sets

/-- A message that is only ever given options with `SetOption` holds each at most once, and reads
back the last one stored for its number unless a later call failed. -/
theorem set_message_reads (lib : LobaroLibrary) (hi : InsertsInOrder lib) (hr : RemovesOptions lib)
    (hf : FailsCleanly lib) (hd : DecodesShortUints lib) (message message' : LobaroCoapMessage)
    (calls : List OptionCall) (hempty : message.message.pOptionsList = [])
    (hsets : ∀ call ∈ calls, ∃ option, call = .set option)
    (hrun : (LobaroCoapMessage.optionSystem lib).run message calls = some message')
    (number : UInt16) (last : Option ICoapOption)
    (hlast : latest (leaves number) none ((LobaroCoapMessage.optionSystem lib).trace
      (LobaroCoapMessage.outcome lib) message calls) = last) :
    (message'.message.pOptionsList.filter (numbered number)).length ≤ 1 ∧
      (last = none → message'.getOption lib number = (.error, none)) ∧
      ∀ option, last = some option → Known option → option.getSize ≤ 65535 →
        message'.getOption lib number = (.ok, some option) := by
  obtain ⟨store, hstore, hrefines⟩ := (simulates_store hi hr hf).run (refines_empty hempty) hrun
  have hcalls : ∀ o ∈ (LobaroCoapMessage.optionSystem lib).trace (LobaroCoapMessage.outcome lib)
      message calls, ∃ option, o.1 = .set option := by
    intro o ho
    obtain ⟨before, call, after, self, rfl, _, hmem⟩ := System.mem_trace ho
    rw [List.mem_singleton.mp hmem]
    exact hsets call (by simp)
  have hqueue := store_of_sets hcalls hstore number
  rw [hlast] at hqueue
  refine ⟨?_, ?_, ?_⟩
  · rw [(hrefines.queues number).length_eq, hqueue]
    cases last <;> simp
  · rintro rfl
    exact (hrefines.reads hd number).1 hqueue
  · rintro option rfl hk hs
    exact (hrefines.reads hd number).2 option [] hqueue hk hs

theorem set_message_reads_format :
    ∃ message', (LobaroCoapMessage.optionSystem referenceLibrary).run {}
        [.set (.coapUIntOption 12 50), .set (.coapUIntOption 14 5),
          .set (.coapUIntOption 12 60)] = some message' ∧
      message'.getOption referenceLibrary 12 = (.ok, some (.coapUIntOption 12 60)) := by
  have hreads := set_message_reads referenceLibrary reference_insertsInOrder
    reference_removesOptions ⟨fun _ _ _ _ _ h => (by cases h), fun _ _ _ _ h => (by cases h)⟩
    reference_decodesShortUints {} _
    [.set (.coapUIntOption 12 50), .set (.coapUIntOption 14 5), .set (.coapUIntOption 12 60)] rfl
    (by simp) rfl 12 (some (.coapUIntOption 12 60)) rfl
  exact ⟨_, rfl, hreads.2.2 _ rfl ⟨(.contentFormat, .uInt), by decide, rfl, rfl⟩ (by decide)⟩

end IoTNode.Lobaro
