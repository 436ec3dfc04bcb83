import Mathlib.Data.Rat.Defs

set_option autoImplicit false

namespace IoTNode

/-- A value of `nlohmann::json`; a finite floating-point number stands for its rational value,
and the members of an object are kept in the key order of `std::map`. -/
inductive Json
  | null
  | boolean (b : Bool)
  | numberInteger (i : ℤ)
  | numberFloat (q : ℚ)
  | string (s : String)
  | array (items : List Json)
  | object (members : List (String × Json))

namespace Json

def find : Json → String → Option Json
  | object members, key => (members.find? (fun m => m.1 == key)).map Prod.snd
  | _, _ => none

def setMember : List (String × Json) → String → Json → List (String × Json)
  | [], key, value => [(key, value)]
  | m :: ms, key, value =>
    if key = m.1 then (key, value) :: ms
    else if key < m.1 then (key, value) :: m :: ms
    else m :: setMember ms key value

def uint8 (n : UInt8) : Json := numberInteger n.toNat

theorem find_cons (m : String × Json) (members : List (String × Json)) (key : String) :
    (object (m :: members)).find key =
      if m.1 = key then some m.2 else (object members).find key := by
  unfold find
  dsimp only
  by_cases h : m.1 = key
  · rw [if_pos h, List.find?_cons_of_pos (by simp [h])]
    rfl
  · rw [if_neg h, List.find?_cons_of_neg (by simp [h])]

theorem find_setMember (members : List (String × Json)) (name : String) (value : Json)
    (key : String) :
    (object (setMember members name value)).find key =
      if name = key then some value else (object members).find key := by
  induction members with
  | nil => exact find_cons (name, value) [] key
  | cons m members ih =>
    unfold setMember
    by_cases hm : name = m.1
    · rw [if_pos hm, find_cons, find_cons, ← hm]
      split_ifs <;> rfl
    · rw [if_neg hm]
      by_cases hlt : name < m.1
      · rw [if_pos hlt, find_cons]
      · rw [if_neg hlt, find_cons, ih, find_cons]
        by_cases hkey : name = key
        · rw [if_pos hkey, if_neg (fun he => hm (hkey.trans he.symm)), if_pos hkey]
        · rw [if_neg hkey, if_neg hkey]
end Json

structure JsonLibrary where
  parse : List UInt8 → Option Json
  dump : Json → List UInt8
  toCbor : Json → List UInt8
  getUInt8 : Json → Option UInt8

end IoTNode
