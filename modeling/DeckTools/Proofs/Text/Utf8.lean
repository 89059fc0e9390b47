import DeckTools.Text.Utf8

/-!
# Bytes of characters

Where a character ends is told by its bytes, and a byte below 0x80 is a character of its own:
it is no part of the bytes of another one.
-/

namespace DeckTools

namespace Text

namespace Utf8

theorem encode_append (s t : String) : encode (s ++ t) = encode s ++ encode t := by
  unfold encode
  rw [String.toList_append, List.flatMap_append]

theorem encode_ne_nil {s : String} (h : s ≠ "") : encode s ≠ [] := by
  intro hnil
  unfold encode at hnil
  rw [List.flatMap_eq_nil_iff] at hnil
  cases hchars : s.toList with
  | nil => exact h (String.toList_eq_nil_iff.mp hchars)
  | cons c rest =>
      rw [hchars] at hnil
      exact String.utf8EncodeChar_ne_nil (hnil c List.mem_cons_self)

/-- Where one character ends is told by its bytes. -/
theorem utf8EncodeChar_append_inj {c d : Char} {xs ys : List UInt8}
    (h : String.utf8EncodeChar c ++ xs = String.utf8EncodeChar d ++ ys) :
    c = d ∧ xs = ys := by
  have hbytes := congrArg List.toByteArray h
  rw [List.toByteArray_append, List.toByteArray_append] at hbytes
  have hdecode := congrArg (fun bytes => bytes.utf8DecodeChar? 0) hbytes
  simp only [ByteArray.utf8DecodeChar?_utf8EncodeChar_append, Option.some.injEq] at hdecode
  rw [hdecode] at h
  exact ⟨hdecode, List.append_cancel_left h⟩

/-- Every byte of a character of more than one byte is 0x80 or more. -/
theorem mem_utf8EncodeChar_iff {mark : Char} (hmark : mark.toNat < 0x80) (c : Char) :
    mark.toUInt8 ∈ String.utf8EncodeChar c <-> mark = c := by
  have hcode : mark = c <-> mark.toNat = c.val.toNat := Char.toNat_inj.symm
  have hbyte : mark.toUInt8.toNat = mark.toNat := by
    show mark.toNat % 256 = mark.toNat
    omega
  rw [hcode]
  unfold String.utf8EncodeChar
  dsimp only
  split
  case isTrue =>
      simp only [List.mem_singleton, ← UInt8.toNat_inj, UInt8.toNat_ofNat', hbyte]
      omega
  case isFalse =>
      split
      case isTrue =>
          simp only [List.mem_cons, List.not_mem_nil, or_false, ← UInt8.toNat_inj,
            UInt8.toNat_ofNat', hbyte]
          omega
      case isFalse =>
          split <;>
            simp only [List.mem_cons, List.not_mem_nil, or_false, ← UInt8.toNat_inj,
              UInt8.toNat_ofNat', hbyte] <;>
            omega

theorem mem_encode_iff {mark : Char} (hmark : mark.toNat < 0x80) (s : String) :
    mark.toUInt8 ∈ encode s <-> mark ∈ s.toList := by
  unfold encode
  simp only [List.mem_flatMap, mem_utf8EncodeChar_iff hmark, exists_eq_right']

end Utf8

end Text

end DeckTools
