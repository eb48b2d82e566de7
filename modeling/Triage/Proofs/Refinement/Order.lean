import Triage.Refinement.Basic
import Triage.Proofs.Rank
import Triage.Proofs.Sorting
import Mathlib.Data.String.Basic

/-!
# The order of what is shown

Items that have a place by their score stand in a linear order, that of `Ranked.place`: the highest
score first, then by path and line (`isShownBefore_iff`). Sorting reorders the items
(`sortRanked_perm`) and leaves no item before the one in front of it (`ascends_sortRanked`), also if
a score is no number; items that stand so stay as they are (`sortRanked_eq_self`).
-/

namespace Triage

/-! ### Comparison of scores -/

namespace Ranked

/-- Whether an item has a place by its score. -/
def IsPlaced (item : Ranked) : Prop :=
  item.score.rank?.isSome = true

instance (item : Ranked) : Decidable item.IsPlaced :=
  inferInstanceAs (Decidable (item.score.rank?.isSome = true))

/-- The place of a score, the highest first. -/
def scorePlace (item : Ranked) : (ℤ ×ₗ ℤ)ᵒᵈ :=
  OrderDual.toDual <| match item.score.rank? with
    | some r => toLex (r.tier, r.units)
    | none => toLex (0, 0)

/-- The place of an item among those that are shown. -/
def place (item : Ranked) : (ℤ ×ₗ ℤ)ᵒᵈ ×ₗ String ×ₗ ℕ :=
  toLex (item.scorePlace, toLex (item.finding.path, item.finding.line))

theorem scorePlace_of_rank {item : Ranked} {r : Rank} (h : item.score.rank? = some r) :
    item.scorePlace = OrderDual.toDual (toLex (r.tier, r.units)) := by
  unfold scorePlace
  rw [h]

/-- The higher of two scores has the lower place. -/
theorem score_lt_iff {a b : Ranked} (ha : a.IsPlaced) (hb : b.IsPlaced) :
    a.score < b.score ↔ b.scorePlace < a.scorePlace := by
  obtain ⟨r, hr⟩ := Option.isSome_iff_exists.mp ha
  obtain ⟨s, hs⟩ := Option.isSome_iff_exists.mp hb
  rw [scorePlace_of_rank hr, scorePlace_of_rank hs, OrderDual.toDual_lt_toDual, ← Rank.lt_iff,
    Number.lt_iff]
  simp [hr, hs]

theorem score_le_iff {a b : Ranked} (ha : a.IsPlaced) (hb : b.IsPlaced) :
    a.score ≤ b.score ↔ b.scorePlace ≤ a.scorePlace := by
  obtain ⟨r, hr⟩ := Option.isSome_iff_exists.mp ha
  obtain ⟨s, hs⟩ := Option.isSome_iff_exists.mp hb
  rw [scorePlace_of_rank hr, scorePlace_of_rank hs, OrderDual.toDual_le_toDual, ← Rank.le_iff,
    Number.le_iff]
  simp [hr, hs]

theorem isStronger_iff {a b : Ranked} (ha : a.IsPlaced) (hb : b.IsPlaced) :
    a.isStronger b = true ↔ a.scorePlace < b.scorePlace := by
  unfold isStronger
  rw [decide_eq_true_iff, score_lt_iff hb ha]

/-- Among items with places, not being stronger is having no higher score. -/
theorem isStronger_eq_false_iff {a b : Ranked} (ha : a.IsPlaced) (hb : b.IsPlaced) :
    a.isStronger b = false ↔ a.score ≤ b.score := by
  rw [Bool.eq_false_iff, ne_eq, isStronger_iff ha hb, not_lt, score_le_iff ha hb]

theorem isEven_iff {a b : Ranked} (ha : a.IsPlaced) (hb : b.IsPlaced) :
    a.isEven b = true ↔ a.scorePlace = b.scorePlace := by
  obtain ⟨r, hr⟩ := Option.isSome_iff_exists.mp ha
  obtain ⟨s, hs⟩ := Option.isSome_iff_exists.mp hb
  rw [scorePlace_of_rank hr, scorePlace_of_rank hs, OrderDual.toDual_inj, toLex_inj, Prod.mk.injEq]
  unfold isEven
  rw [hr, hs]
  obtain ⟨tier, units⟩ := r
  obtain ⟨tier', units'⟩ := s
  simp

/-- What is shown before what, among items with places. -/
theorem isShownBefore_iff {a b : Ranked} (ha : a.IsPlaced) (hb : b.IsPlaced) :
    a.isShownBefore b = true ↔ a.place < b.place := by
  unfold isShownBefore place
  rw [Prod.Lex.toLex_lt_toLex, Prod.Lex.toLex_lt_toLex, ← isEven_iff ha hb, ← isStronger_iff ha hb]
  have hdisjoint : a.isEven b = true → a.isStronger b = false := by
    intro heven
    rw [Bool.eq_false_iff, ne_eq, isStronger_iff ha hb, (isEven_iff ha hb).mp heven]
    exact lt_irrefl _
  cases heven : a.isEven b with
  | false => simp
  | true =>
    rw [hdisjoint heven]
    by_cases hpath : a.finding.path = b.finding.path
    · simp [hpath]
    · simp [hpath]

end Ranked

/-! ### Comparisons that sort -/

/-- Whether a comparison is asymmetric, and a linear one among the items with places. -/
structure IsRankOrder (isBefore : Ranked → Ranked → Bool) : Prop where
  asymm : IsAsymmetric isBefore
  trans : ∀ a b c : Ranked, a.IsPlaced → b.IsPlaced → c.IsPlaced →
    isBefore b a = false → isBefore c b = false → isBefore c a = false

theorem isRankOrder_isStronger : IsRankOrder Ranked.isStronger where
  asymm := by
    intro a b h
    unfold Ranked.isStronger at h ⊢
    rw [decide_eq_true_iff] at h
    exact decide_eq_false (Number.not_lt_of_lt h)
  trans := by
    intro a b c ha hb hc hab hbc
    rw [Bool.eq_false_iff, ne_eq, Ranked.isStronger_iff hb ha, not_lt] at hab
    rw [Bool.eq_false_iff, ne_eq, Ranked.isStronger_iff hc hb, not_lt] at hbc
    rw [Bool.eq_false_iff, ne_eq, Ranked.isStronger_iff hc ha, not_lt]
    exact hab.trans hbc

theorem Ranked.isEven_comm (a b : Ranked) : a.isEven b = b.isEven a := by
  unfold Ranked.isEven
  cases a.score.rank? <;> cases b.score.rank? <;> simp [eq_comm]

theorem isRankOrder_isShownBefore : IsRankOrder Ranked.isShownBefore where
  asymm := by
    intro a b h
    unfold Ranked.isShownBefore at h ⊢
    rw [Ranked.isEven_comm b a]
    cases heven : a.isEven b with
    | false =>
      -- Uneven items are told apart by their scores.
      rw [heven] at h
      exact isRankOrder_isStronger.asymm a b h
    | true =>
      rw [heven] at h
      by_cases hpath : a.finding.path = b.finding.path
      · -- Even items of one path are told apart by their lines, and others by their paths.
        simp only [hpath, Bool.not_true, Bool.false_eq_true, if_false, if_true,
          decide_eq_true_eq] at h
        simp [hpath]
        omega
      · simp only [hpath, Bool.not_true, Bool.false_eq_true, if_false, decide_eq_true_eq] at h
        simp only [Bool.not_true, Bool.false_eq_true, if_false, if_neg (Ne.symm hpath)]
        exact decide_eq_false (lt_asymm h)
  trans := by
    intro a b c ha hb hc hab hbc
    rw [Bool.eq_false_iff, ne_eq, Ranked.isShownBefore_iff hb ha, not_lt] at hab
    rw [Bool.eq_false_iff, ne_eq, Ranked.isShownBefore_iff hc hb, not_lt] at hbc
    rw [Bool.eq_false_iff, ne_eq, Ranked.isShownBefore_iff hc ha, not_lt]
    exact hab.trans hbc

/-- An item that is not shown before another one is not stronger. -/
theorem Ranked.isStronger_eq_false {a b : Ranked} (h : a.isShownBefore b = false) :
    a.isStronger b = false := by
  cases hstronger : a.isStronger b with
  | false => rfl
  | true =>
    -- A stronger item has another place, so it is the score that decides what is shown before.
    have huneven : a.isEven b = false := by
      unfold Ranked.isStronger at hstronger
      rw [decide_eq_true_iff, Number.lt_iff] at hstronger
      obtain ⟨r, s, hr, hs, hlt⟩ := hstronger
      unfold Ranked.isEven
      rw [hr, hs]
      have hne : s ≠ r := by
        rintro rfl
        rw [Rank.lt_iff] at hlt
        exact lt_irrefl _ hlt
      simp [hne]
    unfold Ranked.isShownBefore at h
    rw [huneven] at h
    exact hstronger.symm.trans h

/-! ### Sorting -/

theorem allRanked_iff {items : List Ranked} :
    allRanked items = true ↔ ∀ item ∈ items, item.IsPlaced := by
  unfold allRanked Ranked.IsPlaced
  rw [List.all_eq_true]

/-- Sorting reorders the items. -/
theorem sortRanked_perm (isBefore : Ranked → Ranked → Bool) (items : List Ranked) :
    (sortRanked isBefore items).Perm items := by
  unfold sortRanked
  split_ifs
  · exact List.mergeSort_perm items _
  · exact sortByInsertion_perm isBefore items

variable {isBefore : Ranked → Ranked → Bool}

/-- Among items with places, the comparison of neighbours tells that of all. -/
theorem Ascends.pairwise (h : IsRankOrder isBefore) {items : List Ranked}
    (hplaced : ∀ item ∈ items, item.IsPlaced) (hascends : Ascends isBefore items) :
    items.Pairwise fun a b => (!isBefore b a) = true := by
  -- The comparison is transitive only where there are places, so the relation has to say so.
  let R : Ranked → Ranked → Prop := fun a b => a.IsPlaced ∧ b.IsPlaced ∧ isBefore b a = false
  have htrans : Trans R R R :=
    ⟨fun {a b c} hab hbc => ⟨hab.1, hbc.2.1, h.trans a b c hab.1 hab.2.1 hbc.2.1 hab.2.2 hbc.2.2⟩⟩
  have hchain : items.IsChain R :=
    hascends.imp_of_mem_imp fun a b ha hb hab => ⟨hplaced a ha, hplaced b hb, hab⟩
  refine (List.isChain_iff_pairwise.mp hchain).imp ?_
  intro a b hab
  rw [Bool.not_eq_true']
  exact hab.2.2

theorem pairwise_mergeSort_of_forall {α : Type} {le : α → α → Bool} {p : α → Prop}
    (htrans : ∀ a b c, p a → p b → p c → le a b = true → le b c = true → le a c = true)
    (htotal : ∀ a b, p a → p b → (le a b || le b a) = true) {items : List α}
    (h : ∀ a ∈ items, p a) : (items.mergeSort le).Pairwise fun a b => le a b = true := by
  -- The comparison is one of the subtype, where it is transitive and total.
  let sub := items.attachWith p h
  have hsub : sub.map Subtype.val = items := List.attachWith_map_subtype_val h
  have hmap : (sub.mergeSort fun a b => le a.val b.val).map Subtype.val = items.mergeSort le := by
    rw [List.map_mergeSort (s := le) (fun _ _ _ _ => rfl), hsub]
  have hsorted : (sub.mergeSort fun a b => le a.val b.val).Pairwise
      fun a b => le a.val b.val = true := by
    apply List.pairwise_mergeSort
    · intro a b c
      exact htrans a b c a.2 b.2 c.2
    · intro a b
      exact htotal a b a.2 b.2
  rw [← hmap, List.pairwise_map]
  exact hsorted

/-- No item of the result is before the one in front of it. -/
theorem ascends_sortRanked (h : IsRankOrder isBefore) (items : List Ranked) :
    Ascends isBefore (sortRanked isBefore items) := by
  unfold sortRanked
  split_ifs with hall
  · have hsorted : (items.mergeSort fun a b => !isBefore b a).Pairwise
        fun a b => (!isBefore b a) = true := by
      apply pairwise_mergeSort_of_forall (p := Ranked.IsPlaced) _ _ (allRanked_iff.mp hall)
      · intro a b c ha hb hc hab hbc
        rw [Bool.not_eq_true'] at hab hbc ⊢
        exact h.trans a b c ha hb hc hab hbc
      · intro a b ha hb
        cases hba : isBefore b a with
        | false => rfl
        | true => rw [h.asymm b a hba]; rfl
    refine hsorted.isChain.imp ?_
    intro a b hab
    rwa [Bool.not_eq_true'] at hab
  · exact ascends_sortByInsertion h.asymm items

/-- Items that stand in order stay as they are. -/
theorem sortRanked_eq_self (h : IsRankOrder isBefore) {items : List Ranked}
    (hascends : Ascends isBefore items) : sortRanked isBefore items = items := by
  unfold sortRanked
  split_ifs with hall
  · exact List.mergeSort_of_pairwise (hascends.pairwise h (allRanked_iff.mp hall))
  · exact sortByInsertion_eq_self hascends

end Triage
