import Triage.Digest.Sha1
import Triage.Digest.Sha256
import Triage.Text.Blank

/-!
# Texts of digests

The hexadecimal text of a digest has a fixed length and nothing but digits, so no blanks, whatever
was digested.
-/

namespace Triage.Digest

theorem length_hexWord (x : UInt32) : (hexWord x).length = 8 := by
  rw [hexWord, List.length_map, length_lastDigits]

theorem length_hexText (words : List UInt32) :
    (hexText words).toList.length = 8 * words.length := by
  rw [hexText, String.toList_ofList]
  induction words with
  | nil => rfl
  | cons x words ih =>
    rw [List.flatMap_cons, List.length_append, ih, length_hexWord, List.length_cons]
    omega

theorem isBlank_digitChar {d : Nat} (h : d < 16) : Text.isBlank d.digitChar = false := by
  have hall : ∀ d < 16, Text.isBlank (Nat.digitChar d) = false := by decide
  exact hall d h

theorem exists_digit_of_mem_hexText {words : List UInt32} {c : Char}
    (h : c ∈ (hexText words).toList) : ∃ d < 16, c = Nat.digitChar d := by
  rw [hexText, String.toList_ofList, List.mem_flatMap] at h
  obtain ⟨x, -, hc⟩ := h
  obtain ⟨d, hd, rfl⟩ := List.mem_map.mp hc
  exact ⟨d, lt_of_mem_lastDigits (by decide) hd, rfl⟩

theorem isBlank_of_mem_hexText {words : List UInt32} {c : Char}
    (h : c ∈ (hexText words).toList) : Text.isBlank c = false := by
  obtain ⟨d, hd, rfl⟩ := exists_digit_of_mem_hexText h
  exact isBlank_digitChar hd

theorem isHexDigit_digitChar {d : Nat} (h : d < 16) : d.digitChar.isHexDigit = true := by
  have hall : ∀ d < 16, (Nat.digitChar d).isHexDigit = true := by decide
  exact hall d h

theorem Sha1.length_hex (text : String) : (Sha1.hex text).toList.length = 40 := by
  rw [Sha1.hex]
  exact length_hexText _

theorem Sha1.isBlank_of_mem_hex {text : String} {c : Char} (h : c ∈ (Sha1.hex text).toList) :
    Text.isBlank c = false := by
  rw [Sha1.hex] at h
  exact isBlank_of_mem_hexText h

theorem Sha256.length_hex (text : String) : (Sha256.hex text).toList.length = 64 := by
  rw [Sha256.hex]
  exact length_hexText _

theorem Sha256.isHexDigit_of_mem_hex {text : String} {c : Char}
    (h : c ∈ (Sha256.hex text).toList) : c.isHexDigit = true := by
  rw [Sha256.hex] at h
  obtain ⟨d, hd, rfl⟩ := exists_digit_of_mem_hexText h
  exact isHexDigit_digitChar hd

end Triage.Digest
