import Triage.Proofs.Rank
import Mathlib.Data.Nat.Log
import Mathlib.Tactic.Ring

/-!
# Rounding keeps the order

The spacing of doubles grows with the numbers, so two quotients may be rounded to multiples of
different powers of two. The power of two at which the wider spacing begins is a multiple of both
and lies between the quotients, so it lies between their roundings as well (`roundUnits_mono`).
-/

namespace Triage.Double

/-! ### Whole numbers -/

theorem div_le_roundQuotient (num den : ℕ) : num / den ≤ roundQuotient num den := by
  unfold roundQuotient
  dsimp only
  split_ifs <;> omega

theorem roundQuotient_le_succ (num den : ℕ) : roundQuotient num den ≤ num / den + 1 := by
  unfold roundQuotient
  dsimp only
  split_ifs <;> omega

theorem le_roundQuotient {num den k : ℕ} (hden : 0 < den) (h : k * den ≤ num) :
    k ≤ roundQuotient num den :=
  ((Nat.le_div_iff_mul_le hden).mpr h).trans (div_le_roundQuotient num den)

theorem roundQuotient_le {num den k : ℕ} (hden : 0 < den) (h : num ≤ k * den) :
    roundQuotient num den ≤ k := by
  have hle : num / den ≤ k := Nat.div_le_of_le_mul (by rwa [Nat.mul_comm])
  rcases hle.lt_or_eq with hlt | heq
  · have := roundQuotient_le_succ num den
    omega
  · -- Nothing is left over, so the quotient is not rounded at all.
    have hsplit := Nat.div_add_mod num den
    rw [heq, Nat.mul_comm] at hsplit
    have hmod : num % den = 0 := by omega
    rw [roundQuotient, heq, hmod]
    simp [hden]

theorem roundQuotient_mono {m n den : ℕ} (h : m ≤ n) :
    roundQuotient m den ≤ roundQuotient n den := by
  have hdiv : m / den ≤ n / den := Nat.div_le_div_right h
  rcases hdiv.lt_or_eq with hlt | heq
  · have := roundQuotient_le_succ m den
    have := div_le_roundQuotient n den
    omega
  · -- Of one quotient, the greater remainder is not rounded further down.
    have hm := Nat.div_add_mod m den
    have hn := Nat.div_add_mod n den
    rw [heq] at hm
    have hrest : m % den ≤ n % den := by omega
    unfold roundQuotient
    dsimp only
    rw [heq]
    split_ifs <;> omega

/-! ### Units -/

theorem roundUnits_eq (num den : ℕ) :
    roundUnits num den =
      roundQuotient num (den * 2 ^ ((num / den).log2 - 52)) * 2 ^ ((num / den).log2 - 52) := rfl

/-- A power of two with a quotient below it stays above the rounding. -/
theorem roundUnits_le_two_pow {num den b : ℕ} (hden : 0 < den) (h : num ≤ 2 ^ b * den)
    (hb : (num / den).log2 - 52 ≤ b) : roundUnits num den ≤ 2 ^ b := by
  rw [roundUnits_eq]
  set s := (num / den).log2 - 52
  have hsplit : 2 ^ b = 2 ^ (b - s) * 2 ^ s := by rw [← pow_add, Nat.sub_add_cancel hb]
  rw [hsplit]
  apply Nat.mul_le_mul_right
  apply roundQuotient_le (Nat.mul_pos hden (Nat.two_pow_pos s))
  calc num ≤ 2 ^ (b - s) * 2 ^ s * den := hsplit ▸ h
    _ = 2 ^ (b - s) * (den * 2 ^ s) := by ring

/-- A power of two with a quotient above it stays below the rounding. -/
theorem two_pow_le_roundUnits {num den b : ℕ} (hden : 0 < den) (h : 2 ^ b * den ≤ num)
    (hb : (num / den).log2 - 52 ≤ b) : 2 ^ b ≤ roundUnits num den := by
  rw [roundUnits_eq]
  set s := (num / den).log2 - 52
  have hsplit : 2 ^ b = 2 ^ (b - s) * 2 ^ s := by rw [← pow_add, Nat.sub_add_cancel hb]
  rw [hsplit]
  apply Nat.mul_le_mul_right
  apply le_roundQuotient (Nat.mul_pos hden (Nat.two_pow_pos s))
  calc 2 ^ (b - s) * (den * 2 ^ s) = 2 ^ (b - s) * 2 ^ s * den := by ring
    _ ≤ num := hsplit ▸ h

theorem roundUnits_mono {m n den : ℕ} (hden : 0 < den) (h : m ≤ n) :
    roundUnits m den ≤ roundUnits n den := by
  have hdiv : m / den ≤ n / den := Nat.div_le_div_right h
  have hlog : (m / den).log2 ≤ (n / den).log2 := by
    rw [Nat.log2_eq_log_two, Nat.log2_eq_log_two]
    exact Nat.log_mono_right hdiv
  by_cases hspacing : (m / den).log2 - 52 = (n / den).log2 - 52
  · rw [roundUnits_eq, roundUnits_eq, hspacing]
    exact Nat.mul_le_mul_right _ (roundQuotient_mono h)
  · -- The wider spacing begins at a power of two between the quotients.
    set b := (n / den).log2
    have hlt : (m / den).log2 < b := by omega
    have hpos : n / den ≠ 0 := by
      intro hzero
      have hb : b = 0 := by rw [show b = (n / den).log2 from rfl, hzero, Nat.log2_zero]
      omega
    have hbelow : m < 2 ^ b * den := by
      rw [← Nat.div_lt_iff_lt_mul hden]
      exact Nat.lt_log2_self.trans_le (Nat.pow_le_pow_right Nat.two_pos hlt)
    have habove : 2 ^ b * den ≤ n := (Nat.le_div_iff_mul_le hden).mp (Nat.log2_self_le hpos)
    calc roundUnits m den ≤ 2 ^ b := roundUnits_le_two_pow hden hbelow.le (by omega)
      _ ≤ roundUnits n den := two_pow_le_roundUnits hden habove (Nat.sub_le b 52)

/-! ### Ratios -/

theorem rank?_ofRatio (num den : ℕ) :
    (ofRatio num den).rank? =
      some (if roundUnits (num * unitsPerOne) den < infiniteUnits then
        ⟨0, roundUnits (num * unitsPerOne) den⟩ else ⟨1, 0⟩) := by
  unfold ofRatio ofQuotient
  dsimp only
  split_ifs
  · rfl
  · rfl

/-- A power of two is not rounded. -/
theorem roundUnits_two_pow_mul {den b : ℕ} (hden : 0 < den) :
    roundUnits (2 ^ b * den) den = 2 ^ b := by
  have hdiv : 2 ^ b * den / den = 2 ^ b := Nat.mul_div_cancel _ hden
  have hspacing : (2 ^ b * den / den).log2 - 52 ≤ b := by
    rw [hdiv, Nat.log2_two_pow]
    omega
  exact le_antisymm (roundUnits_le_two_pow hden le_rfl hspacing)
    (two_pow_le_roundUnits hden le_rfl hspacing)

/-- The ratio of a number to itself is not rounded. -/
theorem ofRatio_self {n : ℕ} (hn : 0 < n) : ofRatio n n = 1 := by
  have hunits : roundUnits (n * unitsPerOne) n = unitsPerOne := by
    unfold unitsPerOne
    generalize pointBits = b
    rw [Nat.pow_eq, Nat.mul_comm]
    exact roundUnits_two_pow_mul hn
  unfold ofRatio ofQuotient
  rw [hunits]
  decide +kernel

/-- Of two ratios to one number, the greater one is not rounded below the other. -/
theorem ofRatio_le_ofRatio {m n den : ℕ} (hden : 0 < den) (h : m ≤ n) :
    ofRatio m den ≤ ofRatio n den := by
  have hunits : roundUnits (m * unitsPerOne) den ≤ roundUnits (n * unitsPerOne) den :=
    roundUnits_mono hden (Nat.mul_le_mul_right _ h)
  rw [le_iff]
  refine ⟨_, _, rank?_ofRatio m den, rank?_ofRatio n den, ?_⟩
  rw [Rank.le_iff, Prod.Lex.toLex_le_toLex]
  split_ifs with hm hn hn
  · exact Or.inr ⟨rfl, Int.ofNat_le.mpr hunits⟩
  · exact Or.inl Int.zero_lt_one
  · omega
  · exact Or.inr ⟨rfl, le_rfl⟩

end Triage.Double
