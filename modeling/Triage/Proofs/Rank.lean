import Triage.Number
import Mathlib.Data.Prod.Lex

/-!
# The order of numbers

Places compare like pairs of a tier and units, so they stand in a linear order (`Rank.lt_iff`,
`Rank.le_iff`). A comparison of numbers or doubles holds iff both have places and these compare so;
with a value that is no number, none holds.
-/

namespace Triage

/-! ### Places -/

theorem Rank.lt_iff (a b : Rank) :
    a.lt b = true ↔ toLex (a.tier, a.units) < toLex (b.tier, b.units) := by
  rw [Prod.Lex.toLex_lt_toLex, Rank.lt]
  simp

theorem Rank.le_iff (a b : Rank) :
    a.le b = true ↔ toLex (a.tier, a.units) ≤ toLex (b.tier, b.units) := by
  rw [Prod.Lex.toLex_le_toLex, Rank.le]
  simp

theorem Rank.both_eq_true_iff {r : Rank → Rank → Bool} {a b : Option Rank} :
    Rank.both r a b = true ↔ ∃ x y, a = some x ∧ b = some y ∧ r x y = true := by
  cases a <;> cases b <;> simp [Rank.both]

/-! ### Numbers -/

namespace Number

theorem lt_iff {a b : Number} :
    a < b ↔ ∃ r s, a.rank? = some r ∧ b.rank? = some s ∧ r.lt s = true :=
  Rank.both_eq_true_iff

theorem le_iff {a b : Number} :
    a ≤ b ↔ ∃ r s, a.rank? = some r ∧ b.rank? = some s ∧ r.le s = true :=
  Rank.both_eq_true_iff

theorem not_lt_of_lt {a b : Number} (h : a < b) : ¬ b < a := by
  rw [lt_iff] at h ⊢
  obtain ⟨r, s, ha, hb, hlt⟩ := h
  rintro ⟨s', r', hb', ha', hlt'⟩
  rw [ha, Option.some.injEq] at ha'
  rw [hb, Option.some.injEq] at hb'
  subst ha' hb'
  rw [Rank.lt_iff] at hlt hlt'
  exact lt_asymm hlt hlt'

end Number

/-! ### Doubles -/

namespace Double

variable {x y z : Double}

theorem le_iff : x ≤ y ↔ ∃ r s, x.rank? = some r ∧ y.rank? = some s ∧ r.le s = true :=
  Rank.both_eq_true_iff

theorem le_refl (h : x.rank?.isSome = true) : x ≤ x := by
  obtain ⟨r, hr⟩ := Option.isSome_iff_exists.mp h
  exact le_iff.mpr ⟨r, r, hr, hr, (Rank.le_iff r r).mpr le_rfl⟩

theorem lt_iff : x < y ↔ ∃ r s, x.rank? = some r ∧ y.rank? = some s ∧ r.lt s = true :=
  Rank.both_eq_true_iff

/-- What is no number does not compare. -/
theorem not_lt_of_not_number (h : x.rank? = none ∨ y.rank? = none) : ¬ x < y := by
  intro hlt
  obtain ⟨r, s, hr, hs, -⟩ := lt_iff.mp hlt
  rcases h with h | h
  · exact absurd (h.symm.trans hr) (Option.some_ne_none r).symm
  · exact absurd (h.symm.trans hs) (Option.some_ne_none s).symm

theorem lt_irrefl (x : Double) : ¬ x < x := by
  intro h
  obtain ⟨r, s, hr, hs, hlt⟩ := lt_iff.mp h
  rw [hr, Option.some.injEq] at hs
  subst hs
  exact ((Rank.lt_iff r r).mp hlt).false

theorem lt_trans (hxy : x < y) (hyz : y < z) : x < z := by
  obtain ⟨r, s, hx, hy, hrs⟩ := lt_iff.mp hxy
  obtain ⟨s', t, hy', hz, hst⟩ := lt_iff.mp hyz
  rw [hy, Option.some.injEq] at hy'
  subst hy'
  rw [Rank.lt_iff] at hrs hst
  exact lt_iff.mpr ⟨r, t, hx, hz, (Rank.lt_iff r t).mpr (hrs.trans hst)⟩

theorem lt_of_le_of_lt (hxy : x ≤ y) (hyz : y < z) : x < z := by
  obtain ⟨r, s, hx, hy, hrs⟩ := le_iff.mp hxy
  obtain ⟨s', t, hy', hz, hst⟩ := lt_iff.mp hyz
  rw [hy, Option.some.injEq] at hy'
  subst hy'
  rw [Rank.le_iff] at hrs
  rw [Rank.lt_iff] at hst
  exact lt_iff.mpr ⟨r, t, hx, hz, (Rank.lt_iff r t).mpr (hrs.trans_lt hst)⟩

theorem lt_of_lt_of_le (hxy : x < y) (hyz : y ≤ z) : x < z := by
  obtain ⟨r, s, hx, hy, hrs⟩ := lt_iff.mp hxy
  obtain ⟨s', t, hy', hz, hst⟩ := le_iff.mp hyz
  rw [hy, Option.some.injEq] at hy'
  subst hy'
  rw [Rank.lt_iff] at hrs
  rw [Rank.le_iff] at hst
  exact lt_iff.mpr ⟨r, t, hx, hz, (Rank.lt_iff r t).mpr (hrs.trans_le hst)⟩

theorem not_le_of_lt (h : x < y) : ¬ y ≤ x :=
  fun hle => lt_irrefl x (lt_of_lt_of_le h hle)

theorem lt_of_not_le (hx : x.rank?.isSome = true) (hy : y.rank?.isSome = true) (h : ¬ x ≤ y) :
    y < x := by
  obtain ⟨r, hr⟩ := Option.isSome_iff_exists.mp hx
  obtain ⟨s, hs⟩ := Option.isSome_iff_exists.mp hy
  have hnot : ¬ r.le s = true := fun hle => h (le_iff.mpr ⟨r, s, hr, hs, hle⟩)
  rw [Rank.le_iff, not_le] at hnot
  exact lt_iff.mpr ⟨s, r, hs, hr, (Rank.lt_iff s r).mpr hnot⟩

theorem le_of_lt (h : x < y) : x ≤ y := by
  obtain ⟨r, s, hx, hy, hlt⟩ := lt_iff.mp h
  rw [Rank.lt_iff] at hlt
  exact le_iff.mpr ⟨r, s, hx, hy, (Rank.le_iff r s).mpr hlt.le⟩

/-- A number cannot be skipped on the way from one value up to another. -/
theorem lt_or_lt_of_lt (h : x < z) (hy : y.rank?.isSome = true) : x < y ∨ y < z := by
  obtain ⟨r, t, hx, hz, hrt⟩ := lt_iff.mp h
  obtain ⟨s, hs⟩ := Option.isSome_iff_exists.mp hy
  rw [Rank.lt_iff] at hrt
  rcases lt_or_ge (toLex (r.tier, r.units)) (toLex (s.tier, s.units)) with hrs | hsr
  · exact Or.inl (lt_iff.mpr ⟨r, s, hx, hs, (Rank.lt_iff r s).mpr hrs⟩)
  · exact Or.inr (lt_iff.mpr ⟨s, t, hs, hz, (Rank.lt_iff s t).mpr (hsr.trans_lt hrt)⟩)

end Double

end Triage
