import Mathlib.Data.Nat.Digits.Defs

set_option autoImplicit false

namespace IoTNode.Foundations

/-- The integer that a byte string denotes, most significant byte first. -/
def bigEndianValue (bytes : List UInt8) : ℕ := Nat.ofDigits 256 (bytes.reverse.map UInt8.toNat)

@[simp] theorem bigEndianValue_nil : bigEndianValue [] = 0 := rfl

theorem bigEndianValue_snoc (bytes : List UInt8) (byte : UInt8) :
    bigEndianValue (bytes ++ [byte]) = 256 * bigEndianValue bytes + byte.toNat := by
  unfold bigEndianValue
  rw [List.reverse_append, List.reverse_singleton, List.singleton_append, List.map_cons,
    Nat.ofDigits_cons, Nat.add_comm]

theorem bigEndianValue_cons (byte : UInt8) (bytes : List UInt8) :
    bigEndianValue (byte :: bytes) = 256 ^ bytes.length * byte.toNat + bigEndianValue bytes := by
  unfold bigEndianValue
  rw [List.reverse_cons, List.map_append, Nat.ofDigits_append, List.length_map, List.length_reverse,
    List.map_singleton, Nat.ofDigits_singleton, Nat.add_comm]

theorem bigEndianValue_lt (bytes : List UInt8) : bigEndianValue bytes < 256 ^ bytes.length := by
  have hdigits : ∀ d ∈ bytes.reverse.map UInt8.toNat, d < 256 := by
    intro d hd
    obtain ⟨byte, _, rfl⟩ := List.mem_map.mp hd
    exact byte.toNat_lt
  have hlt := Nat.ofDigits_lt_base_pow_length (by omega) hdigits
  rw [List.length_map, List.length_reverse] at hlt
  exact hlt

theorem bigEndianValue_dropWhile (bytes : List UInt8) :
    bigEndianValue (bytes.dropWhile (fun byte => byte == 0)) = bigEndianValue bytes := by
  induction bytes with
  | nil => rfl
  | cons byte bytes ih =>
    by_cases hb : byte = 0
    · rw [List.dropWhile_cons_of_pos (by simp [hb]), ih, bigEndianValue_cons, hb]
      simp
    · rw [List.dropWhile_cons_of_neg (by simp [hb])]

theorem bigEndianValue_eq_zero (bytes : List UInt8) :
    bigEndianValue bytes = 0 ↔ ∀ byte ∈ bytes, byte = 0 := by
  induction bytes with
  | nil => simp
  | cons byte bytes ih =>
    have hpos : 256 ^ bytes.length ≠ 0 := Nat.ne_of_gt (Nat.pow_pos (by omega))
    have hbyte : byte.toNat = 0 ↔ byte = 0 := UInt8.toNat_inj (b := 0)
    rw [bigEndianValue_cons, Nat.add_eq_zero_iff, Nat.mul_eq_zero, or_iff_right hpos, hbyte,
      ih, List.forall_mem_cons]

end IoTNode.Foundations
