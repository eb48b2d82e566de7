import Triage.Matching.Similarity
import Triage.Proofs.Occurrences
import Triage.Proofs.Rounding
import Mathlib.Data.List.Perm.Basic

/-!
# Scores without a sign

A score is added up from products of numbers without a sign, infinity included, with positive finite
weights. Sums and such products of numbers without a sign are without a sign again, so every score
is a number (`isSome_rank?_matchScore`), and scores compare like the places of numbers.
-/

namespace Triage

/-! ### Doubles without a sign -/

namespace Double

/-- Whether a double is a number that has no sign. -/
inductive IsUnsigned : Double → Prop
  | finite (units : ℕ) : IsUnsigned (finite false units)
  | infinite : IsUnsigned (infinite false)

/-- Whether a double is a finite number above zero. -/
def isPositiveFinite : Double → Bool
  | finite s a => !s && a ≠ 0
  | _ => false

theorem IsUnsigned.isSome_rank? {x : Double} (h : x.IsUnsigned) : x.rank?.isSome = true := by
  cases h <;> rfl

theorem exists_of_isPositiveFinite {x : Double} (h : x.isPositiveFinite = true) :
    ∃ units, units ≠ 0 ∧ x = finite false units := by
  cases x with
  | finite s a =>
    obtain ⟨hsign, hunits⟩ := Bool.and_eq_true_iff.mp h
    rw [Bool.not_eq_true'] at hsign
    exact ⟨a, of_decide_eq_true hunits, by rw [hsign]⟩
  | infinite s => exact absurd h Bool.false_ne_true
  | nan s => exact absurd h Bool.false_ne_true

theorem isUnsigned_of_isPositiveFinite {x : Double} (h : x.isPositiveFinite = true) :
    x.IsUnsigned := by
  obtain ⟨units, -, rfl⟩ := exists_of_isPositiveFinite h
  exact .finite units

theorem isUnsigned_ofQuotient (num den : ℕ) : (ofQuotient false num den).IsUnsigned := by
  unfold ofQuotient
  simp only
  by_cases h : roundUnits num den < infiniteUnits
  · rw [if_pos h]
    exact .finite _
  · rw [if_neg h]
    exact .infinite

theorem addFinite_false (a b : ℕ) : addFinite false a false b = ofQuotient false (a + b) 1 := by
  have hsum : signedUnits false a + signedUnits false b = ((a + b : ℕ) : ℤ) :=
    (Int.natCast_add a b).symm
  unfold addFinite
  simp only [hsum, Int.natCast_eq_zero, Int.natAbs_natCast]
  by_cases hzero : a + b = 0
  · rw [if_pos hzero, hzero]
    decide +kernel
  · have hsign : decide (((a + b : ℕ) : ℤ) < 0) = false := by
      rw [decide_eq_false_iff_not]
      omega
    rw [if_neg hzero, hsign]

theorem IsUnsigned.add {x y : Double} (hx : x.IsUnsigned) (hy : y.IsUnsigned) :
    (x + y).IsUnsigned := by
  cases hx with
  | finite a =>
    cases hy with
    | finite b =>
      show (addFinite false a false b).IsUnsigned
      rw [addFinite_false]
      exact isUnsigned_ofQuotient ..
    | infinite => exact .infinite
  | infinite =>
    cases hy with
    | finite b => exact .infinite
    | infinite => exact .infinite

theorem IsUnsigned.mul {x y : Double} (hx : x.IsUnsigned) (hy : y.isPositiveFinite = true) :
    (x * y).IsUnsigned := by
  obtain ⟨b, hb, rfl⟩ := exists_of_isPositiveFinite hy
  cases hx with
  | finite a =>
    show (Double.mul (Double.finite false a) (Double.finite false b)).IsUnsigned
    rw [Double.mul, bne_self_eq_false]
    exact isUnsigned_ofQuotient ..
  | infinite =>
    have hscaled : scaleInfinity false b = .infinite false := if_neg hb
    show (scaleInfinity false b).IsUnsigned
    rw [hscaled]
    exact .infinite

end Double

/-! ### Sums of numbers without a sign -/

namespace Double

theorem finite_le_finite {a b : ℕ} (h : a ≤ b) : finite false a ≤ finite false b :=
  le_iff.mpr ⟨_, _, rfl, rfl, (Rank.le_iff _ _).mpr <|
    Prod.Lex.toLex_le_toLex.mpr (Or.inr ⟨rfl, Int.ofNat_le.mpr h⟩)⟩

theorem finite_le_infinite (a : ℕ) : finite false a ≤ infinite false :=
  le_iff.mpr ⟨_, _, rfl, rfl, (Rank.le_iff _ _).mpr <|
    Prod.Lex.toLex_le_toLex.mpr (Or.inl Int.zero_lt_one)⟩

theorem le_of_finite_le_finite {a b : ℕ} (h : finite false a ≤ finite false b) : a ≤ b := by
  obtain ⟨r, s, hr, hs, hle⟩ := le_iff.mp h
  obtain rfl := Option.some.inj hr
  obtain rfl := Option.some.inj hs
  rw [Rank.le_iff, Prod.Lex.toLex_le_toLex] at hle
  rcases hle with hlt | ⟨-, hle⟩
  · exact absurd hlt (Int.lt_irrefl 0)
  · exact Int.ofNat_le.mp hle

/-- What is at least a power of two is not rounded below it. -/
theorem two_pow_le_ofQuotient {b units : ℕ} (h : 2 ^ b ≤ units) :
    finite false (2 ^ b) ≤ ofQuotient false units 1 := by
  have hexact : roundUnits (2 ^ b) 1 = 2 ^ b := by
    have hmul := roundUnits_two_pow_mul (b := b) Nat.one_pos
    rwa [Nat.mul_one] at hmul
  have hround : 2 ^ b ≤ roundUnits units 1 := by
    calc 2 ^ b = roundUnits (2 ^ b) 1 := hexact.symm
      _ ≤ roundUnits units 1 := roundUnits_mono Nat.one_pos h
  unfold ofQuotient
  dsimp only
  split_ifs
  · exact finite_le_finite hround
  · exact finite_le_infinite _

/-- Whether a number without a sign is at least a power of two, counted in units. -/
structure IsAtLeast (b : ℕ) (x : Double) : Prop where
  unsigned : x.IsUnsigned
  le : finite false (2 ^ b) ≤ x

/-- A number without a sign that is added leaves a sum above a power of two. -/
theorem IsAtLeast.add {b : ℕ} {x y : Double} (hx : IsAtLeast b x) (hy : y.IsUnsigned) :
    IsAtLeast b (x + y) := by
  refine ⟨hx.unsigned.add hy, ?_⟩
  obtain ⟨hunsigned, hle⟩ := hx
  cases hunsigned with
  | finite m =>
    cases hy with
    | finite n =>
      have hm : 2 ^ b ≤ m := le_of_finite_le_finite hle
      show finite false (2 ^ b) ≤ addFinite false m false n
      rw [addFinite_false]
      exact two_pow_le_ofQuotient (hm.trans (Nat.le_add_right m n))
    | infinite => exact finite_le_infinite _
  | infinite =>
    cases hy with
    | finite n => exact finite_le_infinite _
    | infinite => exact finite_le_infinite _

end Double

/-! ### Scores -/

theorem isUnsigned_jaccard (left right : List String) : (jaccard left right).IsUnsigned := by
  unfold jaccard
  by_cases hempty : (left.isEmpty || right.isEmpty) = true
  · have hzero : (0 : Double) = .finite false 0 := by decide +kernel
    rw [if_pos hempty, hzero]
    exact .finite 0
  · rw [if_neg hempty]
    unfold Double.ofRatio
    exact Double.isUnsigned_ofQuotient ..

theorem isUnsigned_lineProximity (distance : ℤ) : (lineProximity distance).IsUnsigned := by
  apply Double.isUnsigned_of_isPositiveFinite
  unfold lineProximity
  split_ifs <;> decide +kernel

theorem isUnsigned_agreement (same : Bool) : (agreement same).IsUnsigned := by
  apply Double.isUnsigned_of_isPositiveFinite
  cases same <;> decide +kernel

/-- To what the titles are worth, a score adds four parts without a sign. -/
theorem Comparison.exists_parts {c : Comparison} (hbody : c.body.IsUnsigned) :
    ∃ body lines side severity : Double, body.IsUnsigned ∧ lines.IsUnsigned ∧ side.IsUnsigned ∧
      severity.IsUnsigned ∧
      c.score = c.title * .ofDecimal 64 (-2) + body + lines + side + severity := by
  have hbodyPart : (c.body * .ofDecimal 16 (-2)).IsUnsigned := hbody.mul (by decide +kernel)
  have hlinePart : (lineProximity c.distance * .ofDecimal 14 (-2)).IsUnsigned :=
    (isUnsigned_lineProximity _).mul (by decide +kernel)
  have hsidePart : (agreement c.sameSide * .ofDecimal 4 (-2)).IsUnsigned :=
    (isUnsigned_agreement _).mul (by decide +kernel)
  have hseverityPart : (agreement c.sameSeverity * .ofDecimal 2 (-2)).IsUnsigned :=
    (isUnsigned_agreement _).mul (by decide +kernel)
  exact ⟨_, _, _, _, hbodyPart, hlinePart, hsidePart, hseverityPart, rfl⟩

/-- The score of a comparison has no sign if the likenesses of titles and bodies have none. -/
theorem Comparison.isUnsigned_score {c : Comparison} (htitle : c.title.IsUnsigned)
    (hbody : c.body.IsUnsigned) : c.score.IsUnsigned := by
  have htitlePart : (c.title * .ofDecimal 64 (-2)).IsUnsigned := htitle.mul (by decide +kernel)
  obtain ⟨body, lines, side, severity, hbody, hlines, hside, hseverity, hscore⟩ :=
    c.exists_parts hbody
  rw [hscore]
  exact (((htitlePart.add hbody).add hlines).add hside).add hseverity

theorem isUnsigned_score_compareWith (f : Finding) (p : PriorFinding) :
    (compareWith f p).score.IsUnsigned := by
  apply Comparison.isUnsigned_score
  · simp only [compareWith]
    exact isUnsigned_jaccard ..
  · simp only [compareWith]
    exact isUnsigned_jaccard ..

/-- The score of a match is a number. -/
theorem isSome_rank?_matchScore {f : Finding} {p : PriorFinding} {score : Double}
    (h : matchScore? f p = some score) : score.rank?.isSome = true := by
  unfold matchScore? at h
  simp only [Option.ite_none_right_eq_some] at h
  rw [← Option.some.inj h.2]
  exact (isUnsigned_score_compareWith f p).isSome_rank?

/-! ### Scores that are enough -/

/-- Two lists of the same members have all of them in common. -/
theorem jaccard_eq_one {left right : List String} (hleft : left.Nodup) (hright : right.Nodup)
    (hsame : ∀ w, w ∈ right ↔ w ∈ left) (hsome : left ≠ []) : jaccard left right = 1 := by
  have hlength : right.length = left.length :=
    ((List.perm_ext_iff_of_nodup hright hleft).mpr hsame).length_eq
  have hcommon : left.countP (· ∈ right) = left.length := by
    rw [List.countP_eq_length]
    intro w hw
    exact decide_eq_true ((hsame w).mpr hw)
  have hpos : 0 < left.length := List.length_pos_iff.mpr hsome
  have hneither : ¬ (left.isEmpty || right.isEmpty) = true := by
    rw [Bool.or_eq_true, List.isEmpty_iff_length_eq_zero, List.isEmpty_iff_length_eq_zero]
    omega
  unfold jaccard
  rw [if_neg hneither]
  dsimp only
  rw [hcommon, hlength, Nat.add_sub_cancel]
  exact Double.ofRatio_self hpos

/-- Titles that agree are worth enough, whatever else there is to compare. -/
theorem Comparison.minMatchScore_le_score {c : Comparison} (htitle : c.title = 1)
    (hbody : c.body.IsUnsigned) : minMatchScore ≤ c.score := by
  have hhalf : minMatchScore = .finite false (2 ^ 1073) := by decide +kernel
  have htitlePart : Double.IsAtLeast 1073 (c.title * .ofDecimal 64 (-2)) := by
    rw [htitle]
    exact ⟨Double.isUnsigned_of_isPositiveFinite (by decide +kernel), by decide +kernel⟩
  obtain ⟨body, lines, side, severity, hbody, hlines, hside, hseverity, hscore⟩ :=
    c.exists_parts hbody
  -- A half is a power of two, so no sum is rounded below it once it is reached.
  rw [hhalf, hscore]
  exact ((((htitlePart.add hbody).add hlines).add hside).add hseverity).le

end Triage
