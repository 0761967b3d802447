import Mathlib.Tactic.SplitIfs

/-!
# The order of bytes

Texts are compared character by character.  Their encodings in UTF-8 come in the same order:
of two characters the one with the smaller number has the smaller encoding, whatever stands
behind the two.
-/

namespace BackOfEnvelope

/-- The bytes of a text in UTF-8. -/
def utf8Bytes (text : String) : List UInt8 :=
  text.toUTF8.data.toList

theorem utf8Bytes_ofList_cons (c : Char) (rest : List Char) :
    utf8Bytes (String.ofList (c :: rest)) =
      String.utf8EncodeChar c ++ utf8Bytes (String.ofList rest) := by
  simp only [utf8Bytes, String.toUTF8, String.toByteArray_ofList]
  rw [List.utf8Encode_cons, List.utf8Encode_singleton, ByteArray.data_append,
    Array.toList_append, List.toList_data_toByteArray]

theorem byte_cons_lt_iff {m n : Nat} (first : m < 256) (second : n < 256)
    (rest others : List UInt8) :
    UInt8.ofNat m :: rest < UInt8.ofNat n :: others ↔ m < n ∨ m = n ∧ rest < others := by
  rw [List.cons_lt_cons_iff, UInt8.lt_iff_toNat_lt, ← UInt8.toNat_inj, UInt8.toNat_ofNat',
    UInt8.toNat_ofNat', Nat.mod_eq_of_lt first, Nat.mod_eq_of_lt second]

theorem utf8EncodeChar_append_lt {a b : Char} (before : a < b) (rest others : List UInt8) :
    String.utf8EncodeChar a ++ rest < String.utf8EncodeChar b ++ others := by
  have smaller : a.val.toNat < b.val.toNat := before
  have bound : b.val.toNat < 0x110000 := by
    have valid := b.valid
    simp only [UInt32.isValidChar, Nat.isValidChar] at valid
    omega
  simp only [String.utf8EncodeChar]
  generalize a.val.toNat = m at *
  generalize b.val.toNat = n at *
  have digits (k : Nat) : k / 4096 = k / 64 / 64 ∧ k / 262144 = k / 64 / 64 / 64 := by omega
  -- A longer encoding begins with a greater byte.  Encodings of one length are compared as
  -- the numbers are by their digits to the base 64.
  split_ifs
  all_goals
    simp (disch := omega) only [digits, List.cons_append, List.nil_append, byte_cons_lt_iff]
    omega

theorem utf8Bytes_ofList_lt {text other : List Char} (before : text < other) :
    utf8Bytes (String.ofList text) < utf8Bytes (String.ofList other) := by
  induction text generalizing other with
  | nil =>
      cases other with
      | nil => cases before
      | cons d other =>
          have someBytes : String.utf8EncodeChar d ≠ [] := String.utf8EncodeChar_ne_nil
          obtain ⟨byte, bytes, encoded⟩ := List.exists_cons_of_ne_nil someBytes
          rw [utf8Bytes_ofList_cons, encoded]
          exact List.nil_lt_cons _ _
  | cons c text ih =>
      cases other with
      | nil => cases before
      | cons d other =>
          rw [utf8Bytes_ofList_cons, utf8Bytes_ofList_cons]
          rcases List.cons_lt_cons_iff.mp before with smaller | ⟨rfl, later⟩
          · exact utf8EncodeChar_append_lt smaller _ _
          · exact List.append_left_lt (ih later)

theorem utf8Bytes_lt_of_lt {text other : String} (before : text < other) :
    utf8Bytes text < utf8Bytes other := by
  have encoded := utf8Bytes_ofList_lt (String.lt_iff.mp before)
  rwa [String.ofList_toList, String.ofList_toList] at encoded

theorem utf8Bytes_lt_iff {text other : String} :
    utf8Bytes text < utf8Bytes other ↔ text < other := by
  refine ⟨fun before => ?_, utf8Bytes_lt_of_lt⟩
  apply Classical.byContradiction
  intro notBefore
  rcases Classical.em (other = text) with rfl | different
  · exact List.lt_irrefl _ before
  · have after : other < text := Std.lt_of_le_of_ne (String.not_lt.mp notBefore) different
    exact List.lt_asymm before (utf8Bytes_lt_of_lt after)

end BackOfEnvelope
