import IoTNode.LobaroMessages

set_option autoImplicit false

namespace IoTNode.Lobaro

open Coap

/-- What lobaro-coap documents of `CoAP_SetPayload`: it copies the bytes it is told of. -/
def CopiesPayloads (lib : LobaroLibrary) : Prop :=
  ∀ message bytes length stored storedLength, 0 < length → length.toNat ≤ bytes.length →
    lib.setPayload message bytes length = (.ok, stored, storedLength) →
      stored = some (bytes.take length.toNat) ∧ storedLength = length

theorem reference_copiesPayloads : CopiesPayloads referenceLibrary := by
  intro message bytes length stored storedLength _ _ h
  obtain ⟨_, h⟩ := Prod.mk.inj h
  obtain ⟨rfl, rfl⟩ := Prod.mk.inj h
  exact ⟨rfl, rfl⟩

namespace LobaroCoapMessage

variable (lib : LobaroLibrary) (self : LobaroCoapMessage) (payload : Payload)

def Accepts : Prop :=
  (lib.setPayload self.message payload (UInt16.ofNat payload.length)).1 = .ok

def Survives : Prop :=
  (self.setPayload lib payload).2 = .ok →
    (self.setPayload lib payload).1.getPayload = (.ok, some payload)

section Storage

variable {lib self payload}

theorem setPayload_accepts : (self.setPayload lib payload).2 = .ok ↔ self.Accepts lib payload :=
  toCoapResult_ok_iff _

theorem getPayload_length {bytes : Payload} (h : self.getPayload = (.ok, some bytes)) :
    bytes.length ≤ 65535 := by
  unfold getPayload at h
  split at h
  · cases h
  · rename_i stored _
    obtain rfl := Option.some.inj (Prod.mk.inj h).2
    have hlength := self.message.payloadLength.toNat_lt
    have htake := List.length_take_le self.message.payloadLength.toNat stored
    omega

theorem setPayload_getPayload (hs : CopiesPayloads lib) (hp : payload ≠ [])
    (ha : self.Accepts lib payload) (hl : payload.length ≤ 65535) :
    (self.setPayload lib payload).1.getPayload = (.ok, some payload) := by
  have hpos : 0 < payload.length := List.length_pos_iff.mpr hp
  have htold : (UInt16.ofNat payload.length).toNat = payload.length :=
    UInt16.toNat_ofNat_of_lt' (Nat.lt_succ_of_le hl)
  have htoldPos : 0 < UInt16.ofNat payload.length := by
    rw [UInt16.lt_iff_toNat_lt, htold]
    exact hpos
  unfold Accepts at ha
  unfold setPayload
  cases hset : lib.setPayload self.message payload (UInt16.ofNat payload.length) with
  | mk res rest =>
    obtain ⟨stored, storedLength⟩ := rest
    rw [hset] at ha
    obtain rfl : res = .ok := ha
    obtain ⟨rfl, rfl⟩ := hs _ _ _ _ _ htoldPos (Nat.le_of_eq htold) hset
    unfold getPayload
    dsimp only
    rw [htold, List.take_length, List.take_length]

end Storage

theorem survives_iff (hs : CopiesPayloads lib) (hp : payload ≠ []) :
    self.Survives lib payload ↔ (self.Accepts lib payload → payload.length ≤ 65535) := by
  unfold Survives
  rw [setPayload_accepts]
  apply imp_congr_right
  intro ha
  exact ⟨getPayload_length, setPayload_getPayload hs hp ha⟩

theorem survives_iff_short : Survives referenceLibrary {} [0x6f, 0, 0x6b] :=
  (survives_iff referenceLibrary {} [0x6f, 0, 0x6b] reference_copiesPayloads (by decide)).mpr
    (fun _ => by decide)

def longPayload : Payload := List.replicate 65537 0x61

-- 65537 bytes, of which `CoAP_SetPayload` is told of one
theorem survives_counterexample : ¬ Survives referenceLibrary {} longPayload := by
  intro h
  have hlength := getPayload_length (h rfl)
  rw [longPayload, List.length_replicate] at hlength
  exact absurd hlength (by decide)

end LobaroCoapMessage

end IoTNode.Lobaro
