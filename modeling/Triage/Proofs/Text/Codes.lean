import Mathlib.Data.Nat.Notation
import Mathlib.Tactic.SplitIfs
import Triage.Text.Quoted

/-!
# Codes of characters

A code that is no character's is that of no character at all, and no character has the code of half
of a surrogate pair. Hence a character is told by its code (`ofUnit_toNat`), and one that stands in
for a half by that half (`ofUnit_eq_of_half?`).
-/

namespace Triage.Text

theorem toNat_ofNat {n : ℕ} (h : n.isValidChar) : (Char.ofNat n).toNat = n := by
  unfold Char.ofNat
  rw [dif_pos h]
  rfl

theorem toNat_ofNat_of_not_isValidChar {n : ℕ} (h : ¬ n.isValidChar) :
    (Char.ofNat n).toNat = 0 := by
  unfold Char.ofNat
  rw [dif_neg h]
  rfl

/-- The codes of characters are those below the halves of pairs and those above. -/
theorem toNat_bounds (c : Char) :
    c.toNat < 0xD800 ∨ 0xE000 ≤ c.toNat ∧ c.toNat < 0x110000 := by
  rcases c.valid with h | ⟨hlow, hhigh⟩
  · exact Or.inl h
  · exact Or.inr ⟨hlow, hhigh⟩

theorem isHalf_iff {unit : ℕ} : isHalf unit = true ↔ 0xD800 ≤ unit ∧ unit < 0xE000 := by
  simp [isHalf]

theorem ofUnit_toNat (c : Char) : ofUnit c.toNat = c := by
  have hbounds := toNat_bounds c
  have hhalf : ¬ isHalf c.toNat = true := by
    rw [isHalf_iff]
    omega
  rw [ofUnit, if_neg hhalf, Char.ofNat_toNat]

/-- A character that stands in for a half, and the half. -/
theorem half?_eq_some_iff {c : Char} {unit : ℕ} :
    half? c = some unit ↔ c.toNat = standInPlane + unit ∧ isHalf unit = true := by
  unfold half?
  simp only [Option.ite_none_right_eq_some, Bool.and_eq_true, decide_eq_true_eq,
    Option.some.injEq]
  constructor
  · rintro ⟨⟨hplane, hhalf⟩, rfl⟩
    exact ⟨by omega, hhalf⟩
  · rintro ⟨hcode, hhalf⟩
    have hunit : c.toNat - standInPlane = unit := by omega
    rw [hunit]
    exact ⟨⟨by omega, hhalf⟩, rfl⟩

theorem ofUnit_eq_of_half? {c : Char} {unit : ℕ} (h : half? c = some unit) : ofUnit unit = c := by
  obtain ⟨hcode, hhalf⟩ := half?_eq_some_iff.mp h
  rw [ofUnit, if_pos hhalf, ← hcode, Char.ofNat_toNat]

end Triage.Text
