import Mathlib.Data.List.Basic

set_option autoImplicit false

/-! Reading what was printed: decimal numbers, lists of them, labelled fields and UTF-8. -/

namespace IoTNode.Foundations

/-- The value of a text of one or more decimal digits. -/
def readDecimal (text : List Char) : Option ℕ :=
  if !text.isEmpty && text.all Char.isDigit then some (Nat.ofDigitChars 10 text 0) else none

theorem isDigit_toDigits {n : ℕ} {c : Char} (h : c ∈ Nat.toDigits 10 n) : c.isDigit :=
  Nat.isDigit_of_mem_toDigits (by decide) (Nat.le_refl 10) h

theorem not_mem_toDigits {c : Char} (h : ¬ c.isDigit) (n : ℕ) : c ∉ Nat.toDigits 10 n :=
  fun hc => h (isDigit_toDigits hc)

@[simp] theorem readDecimal_toDigits (n : ℕ) : readDecimal (Nat.toDigits 10 n) = some n := by
  have hdigits : (Nat.toDigits 10 n).all Char.isDigit :=
    List.all_eq_true.mpr (fun _ hc => isDigit_toDigits hc)
  have hempty : (Nat.toDigits 10 n).isEmpty = false :=
    List.isEmpty_eq_false_iff.mpr Nat.toDigits_ne_nil
  unfold readDecimal
  rw [hdigits, hempty, Nat.ofDigitChars_ten_toDigits]
  rfl

def printDecimals (separator : Char) (numbers : List ℕ) : List Char :=
  [separator].intercalate (numbers.map (Nat.toDigits 10))

def readDecimals (separator : Char) (text : List Char) : Option (List ℕ) :=
  (text.splitOn separator).mapM readDecimal

theorem mapM_readDecimal (numbers : List ℕ) :
    (numbers.map (Nat.toDigits 10)).mapM readDecimal = some numbers := by
  induction numbers with
  | nil => rfl
  | cons n numbers ih =>
    rw [List.map_cons, List.mapM_cons, readDecimal_toDigits, ih]
    rfl

theorem readDecimals_printDecimals {separator : Char} (h : ¬ separator.isDigit) {numbers : List ℕ}
    (hn : numbers ≠ []) :
    readDecimals separator (printDecimals separator numbers) = some numbers := by
  have hsplit : (printDecimals separator numbers).splitOn separator =
      numbers.map (Nat.toDigits 10) := by
    apply List.splitOn_intercalate
    · intro text ht
      obtain ⟨n, _, rfl⟩ := List.mem_map.mp ht
      exact not_mem_toDigits h n
    · exact fun he => hn (List.map_eq_nil_iff.mp he)
  rw [readDecimals, hsplit, mapM_readDecimal]

theorem mem_printDecimals {separator c : Char} {numbers : List ℕ}
    (h : c ∈ printDecimals separator numbers) : c = separator ∨ c.isDigit := by
  unfold printDecimals at h
  induction numbers with
  | nil => cases h
  | cons n numbers ih =>
    by_cases hn : numbers = []
    · rw [hn, List.map_singleton, List.intercalate_singleton] at h
      exact Or.inr (isDigit_toDigits h)
    · rw [List.map_cons, List.intercalate_cons_of_ne_nil (fun he => hn (List.map_eq_nil_iff.mp he)),
        List.mem_append, List.mem_append, List.mem_singleton] at h
      rcases h with (hdigit | rfl) | hrest
      · exact Or.inr (isDigit_toDigits hdigit)
      · exact Or.inl rfl
      · exact ih hrest

/-- What follows the label that the text starts with. -/
def afterLabel (label text : List Char) : Option (List Char) :=
  if label <+: text then some (text.drop label.length) else none

@[simp] theorem afterLabel_append (label text : List Char) :
    afterLabel label (label ++ text) = some text := by
  unfold afterLabel
  rw [if_pos (List.prefix_append label text), List.drop_left]

def readUtf8 (bytes : List UInt8) : Option String := String.fromUTF8? bytes.toByteArray

theorem toList_loop (bytes : ByteArray) (i : ℕ) (read : List UInt8) :
    ByteArray.toList.loop bytes i read = read.reverse ++ bytes.data.toList.drop i := by
  fun_induction ByteArray.toList.loop bytes i read with
  | case1 i read h ih =>
    have hi : i < bytes.data.toList.length := h
    have hbyte : bytes.get! i = bytes.data.toList[i] := getElem!_pos bytes.data i h
    rw [ih, List.reverse_cons, List.append_assoc, List.singleton_append, hbyte,
      ← List.drop_eq_getElem_cons hi]
  | case2 i read h =>
    rw [List.drop_eq_nil_of_le (Nat.not_lt.mp h), List.append_nil]

theorem toByteArray_toList (bytes : ByteArray) : bytes.toList.toByteArray = bytes := by
  unfold ByteArray.toList
  rw [toList_loop]
  apply ByteArray.ext
  simp

@[simp] theorem readUtf8_toUTF8 (text : String) : readUtf8 text.toUTF8.toList = some text := by
  unfold readUtf8 String.fromUTF8?
  rw [toByteArray_toList]
  exact dif_pos text.isValidUTF8

theorem length_toUTF8_le (text : String) :
    text.toUTF8.toList.length ≤ 4 * text.toList.length := by
  have hbytes : text.toUTF8.toList.length = (text.toList.flatMap String.utf8EncodeChar).length := by
    have hsize : text.toUTF8.toList.toByteArray.size = text.toList.utf8Encode.size := by
      rw [toByteArray_toList, String.utf8Encode_toList]
      rfl
    rwa [List.utf8Encode, List.size_toByteArray, List.size_toByteArray] at hsize
  rw [hbytes]
  generalize text.toList = chars
  induction chars with
  | nil => exact Nat.le_refl 0
  | cons c chars ih =>
    have hc := c.utf8Size_le_four
    rw [List.flatMap_cons, List.length_append, String.length_utf8EncodeChar, List.length_cons]
    omega

theorem toUTF8_ne_nil {text : String} (h : text ≠ "") : text.toUTF8.toList ≠ [] := by
  intro he
  have hread := readUtf8_toUTF8 text
  rw [he] at hread
  exact h (Option.some.inj hread).symm

end IoTNode.Foundations
