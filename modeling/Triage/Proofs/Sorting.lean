import Triage.Sorting
import Mathlib.Data.List.Chain
import Mathlib.Data.List.Perm.Basic

/-!
# Correctness of sorting by insertion

Sorting by insertion reorders the items (`sortByInsertion_perm`). Of the comparison it needs only
that no two items are less than each other: then no item of the result is less than the one in front
of it (`ascends_sortByInsertion`), and items that stand so already stay as they are
(`sortByInsertion_eq_self`). The comparison need not be transitive.
-/

namespace Triage

variable {α : Type} {lt : α → α → Bool}

/-- Whether no item is less than the one in front of it. -/
def Ascends (lt : α → α → Bool) (items : List α) : Prop :=
  items.IsChain fun a b => lt b a = false

instance (lt : α → α → Bool) (items : List α) : Decidable (Ascends lt items) :=
  inferInstanceAs (Decidable (items.IsChain fun a b => lt b a = false))

/-- Whether no two items are less than each other. -/
def IsAsymmetric (lt : α → α → Bool) : Prop :=
  ∀ a b, lt a b = true → lt b a = false

/-! ### The run at the start -/

theorem runFrom_append (goesOn : α → α → Bool) (last : α) (items : List α) :
    (runFrom goesOn last items).1 ++ (runFrom goesOn last items).2 = items := by
  induction items generalizing last with
  | nil => rfl
  | cons x rest ih =>
    unfold runFrom
    split_ifs with h
    · show x :: ((runFrom goesOn x rest).1 ++ (runFrom goesOn x rest).2) = x :: rest
      rw [ih]
    · rfl

theorem isChain_runFrom (goesOn : α → α → Bool) (last : α) (items : List α) :
    (last :: (runFrom goesOn last items).1).IsChain fun a b => goesOn a b = true := by
  induction items generalizing last with
  | nil => exact List.isChain_singleton last
  | cons x rest ih =>
    unfold runFrom
    split_ifs with h
    · exact List.isChain_cons_cons.mpr ⟨h, ih x⟩
    · exact List.isChain_singleton last

theorem runFrom_eq_self {goesOn : α → α → Bool} {last : α} {items : List α}
    (h : (last :: items).IsChain fun a b => goesOn a b = true) :
    runFrom goesOn last items = (items, []) := by
  induction items generalizing last with
  | nil => rfl
  | cons x rest ih =>
    obtain ⟨hhead, htail⟩ := List.isChain_cons_cons.mp h
    unfold runFrom
    rw [if_pos hhead, ih htail]

theorem leadingRun_falling {a b : α} (h : lt b a = true) (rest : List α) :
    leadingRun lt (a :: b :: rest) =
      ((a :: b :: (runFrom (fun x y => lt y x) b rest).1).reverse,
        (runFrom (fun x y => lt y x) b rest).2) :=
  if_pos h

theorem leadingRun_rising {a b : α} (h : lt b a = false) (rest : List α) :
    leadingRun lt (a :: b :: rest) =
      (a :: b :: (runFrom (fun x y => !lt y x) b rest).1,
        (runFrom (fun x y => !lt y x) b rest).2) :=
  if_neg (Bool.eq_false_iff.mp h)

theorem leadingRun_perm (lt : α → α → Bool) (items : List α) :
    ((leadingRun lt items).1 ++ (leadingRun lt items).2).Perm items := by
  match items with
  | [] => exact List.Perm.refl _
  | [a] => exact List.Perm.refl _
  | a :: b :: rest =>
    cases h : lt b a with
    | true =>
      -- The falling run is turned round.
      have hsplit := runFrom_append (fun x y => lt y x) b rest
      rw [leadingRun_falling h]
      conv_rhs => rw [← hsplit]
      exact (List.reverse_perm _).append_right _
    | false =>
      have hsplit := runFrom_append (fun x y => !lt y x) b rest
      rw [leadingRun_rising h]
      conv_rhs => rw [← hsplit]
      exact List.Perm.refl _

theorem ascends_leadingRun (hlt : IsAsymmetric lt) (items : List α) :
    Ascends lt (leadingRun lt items).1 := by
  match items with
  | [] => exact List.isChain_nil
  | [a] => exact List.isChain_singleton a
  | a :: b :: rest =>
    cases h : lt b a with
    | true =>
      have hrun := isChain_runFrom (fun x y => lt y x) b rest
      -- In a falling run each item is less than the one in front of it, and by asymmetry that one
      -- is not less, which is what is asked once the run is turned round.
      rw [leadingRun_falling h, Ascends, List.isChain_reverse]
      refine List.isChain_cons_cons.mpr ⟨hlt _ _ h, hrun.imp ?_⟩
      intro x y hxy
      exact hlt _ _ hxy
    | false =>
      have hrun := isChain_runFrom (fun x y => !lt y x) b rest
      rw [leadingRun_rising h]
      refine List.isChain_cons_cons.mpr ⟨h, hrun.imp ?_⟩
      intro x y hxy
      rwa [Bool.not_eq_true'] at hxy

theorem leadingRun_eq_self {items : List α} (h : Ascends lt items) :
    leadingRun lt items = (items, []) := by
  match items, h with
  | [], _ => rfl
  | [a], _ => rfl
  | a :: b :: rest, h =>
    obtain ⟨hhead, htail⟩ := List.isChain_cons_cons.mp h
    have hrun : runFrom (fun x y => !lt y x) b rest = (rest, []) := by
      apply runFrom_eq_self
      refine htail.imp ?_
      intro x y hxy
      rwa [Bool.not_eq_true']
    rw [leadingRun_rising hhead, hrun]

/-! ### One insertion -/

/-- The place found lies between the two places; an item in front of it is not greater, and the item
behind it is. -/
theorem placeBetween_spec (lt : α → α → Bool) (x : α) (sorted : List α) (fuel : ℕ) {low high : ℕ}
    (hle : low ≤ high) (hfuel : high ≤ low + fuel) :
    let place := placeBetween lt x sorted fuel low high
    low ≤ place ∧ place ≤ high ∧
    (∀ i, i + 1 = place → low < place → (sorted[i]?).any (lt x) = false) ∧
    (place < high → (sorted[place]?).any (lt x) = true) := by
  -- Both bounds move to where the middle item is compared with the new one, so what was compared
  -- last on either hand stands next to the place.
  induction fuel generalizing low high with
  | zero =>
    have heq : low = high := by omega
    subst heq
    exact ⟨le_refl _, le_refl _, fun _ _ h => absurd h (lt_irrefl _),
      fun h => absurd h (lt_irrefl _)⟩
  | succ fuel ih =>
    unfold placeBetween
    by_cases hlt : low < high
    · rw [if_pos hlt]
      simp only
      split_ifs with hmiddle
      · obtain ⟨h1, h2, h3, h4⟩ :=
          @ih low (low + (high - low) / 2) (by omega) (by omega)
        refine ⟨h1, by omega, h3, ?_⟩
        intro hplace
        rcases Nat.lt_or_eq_of_le h2 with h | h
        · exact h4 h
        · rw [h]
          exact hmiddle
      · obtain ⟨h1, h2, h3, h4⟩ :=
          @ih (low + (high - low) / 2 + 1) high (by omega) (by omega)
        refine ⟨by omega, h2, ?_, h4⟩
        intro i hi hplace
        rcases Nat.lt_or_eq_of_le h1 with h | h
        · exact h3 i hi h
        · have hi' : i = low + (high - low) / 2 := by omega
          rw [hi']
          exact Bool.eq_false_iff.mpr hmiddle
    · rw [if_neg hlt]
      exact ⟨le_refl _, hle, fun _ _ h => absurd h (lt_irrefl _), fun h => absurd h hlt⟩

theorem place_le_length (lt : α → α → Bool) (sorted : List α) (x : α) :
    placeBetween lt x sorted sorted.length 0 sorted.length ≤ sorted.length :=
  (placeBetween_spec lt x sorted sorted.length (Nat.zero_le _) (by rw [Nat.zero_add])).2.1

theorem insertSorted_perm (lt : α → α → Bool) (sorted : List α) (x : α) :
    (insertSorted lt sorted x).Perm (x :: sorted) :=
  List.perm_insertIdx x sorted (place_le_length lt sorted x)

/-- An item may be put between two others of a chain if it goes with both. -/
theorem isChain_insertIdx {R : α → α → Prop} {items : List α} {x : α} {place : ℕ}
    (h : items.IsChain R) (hle : place ≤ items.length)
    (hfront : ∀ i (hi : i < items.length), i + 1 = place → R items[i] x)
    (hbehind : ∀ hplace : place < items.length, R x items[place]) :
    (items.insertIdx place x).IsChain R := by
  have hlen : (items.insertIdx place x).length = items.length + 1 :=
    List.length_insertIdx_of_le_length hle x
  rw [List.isChain_iff_getElem] at h ⊢
  intro i hi
  rw [hlen] at hi
  rcases Nat.lt_trichotomy (i + 1) place with hip | hip | hip
  · rw [List.getElem_insertIdx_of_lt (by omega : i < place), List.getElem_insertIdx_of_lt hip]
    exact h i (by omega)
  · -- The new item is the second of the two, or the first of them, or stands in front of both.
    have hx : (items.insertIdx place x)[i + 1] = x := by
      simp only [hip, List.getElem_insertIdx_self]
    rw [hx, List.getElem_insertIdx_of_lt (by omega : i < place)]
    exact hfront i (by omega) hip
  · rcases Nat.lt_or_eq_of_le (Nat.le_of_lt_succ hip) with hip' | hip'
    · rw [List.getElem_insertIdx_of_gt hip, List.getElem_insertIdx_of_gt hip']
      have hstep := h (i - 1) (by omega)
      simp only [Nat.sub_add_cancel (show 1 ≤ i by omega)] at hstep
      exact hstep
    · have hx : (items.insertIdx place x)[i] = x := by
        simp only [← hip', List.getElem_insertIdx_self]
      rw [hx, List.getElem_insertIdx_of_gt hip]
      have hlast := hbehind (by omega)
      simp only [hip'] at hlast
      exact hlast

theorem ascends_insertSorted (hlt : IsAsymmetric lt) {sorted : List α} (h : Ascends lt sorted)
    (x : α) : Ascends lt (insertSorted lt sorted x) := by
  have hspec := placeBetween_spec lt x sorted sorted.length (Nat.zero_le sorted.length)
    (by rw [Nat.zero_add])
  apply isChain_insertIdx h hspec.2.1
  · intro i hi hplace
    have hnot := hspec.2.2.1 i hplace (by omega)
    rwa [List.getElem?_eq_getElem hi, Option.any_some] at hnot
  · intro hplace
    have hless := hspec.2.2.2 hplace
    rw [List.getElem?_eq_getElem hplace, Option.any_some] at hless
    exact hlt _ _ hless

/-! ### All insertions -/

theorem foldl_insertSorted_perm (lt : α → α → Bool) (sorted items : List α) :
    (items.foldl (insertSorted lt) sorted).Perm (sorted ++ items) := by
  induction items generalizing sorted with
  | nil => rw [List.append_nil, List.foldl_nil]
  | cons x rest ih =>
    rw [List.foldl_cons]
    have hstep := (insertSorted_perm lt sorted x).append_right rest
    exact (ih _).trans (hstep.trans List.perm_middle.symm)

theorem ascends_foldl_insertSorted (hlt : IsAsymmetric lt) {sorted : List α}
    (h : Ascends lt sorted) (items : List α) :
    Ascends lt (items.foldl (insertSorted lt) sorted) := by
  induction items generalizing sorted with
  | nil => exact h
  | cons x rest ih => exact ih (ascends_insertSorted hlt h x)

/-- Sorting by insertion reorders the items. -/
theorem sortByInsertion_perm (lt : α → α → Bool) (items : List α) :
    (sortByInsertion lt items).Perm items :=
  (foldl_insertSorted_perm lt _ _).trans (leadingRun_perm lt items)

/-- No item of the result is less than the one in front of it. -/
theorem ascends_sortByInsertion (hlt : IsAsymmetric lt) (items : List α) :
    Ascends lt (sortByInsertion lt items) :=
  ascends_foldl_insertSorted hlt (ascends_leadingRun hlt items) _

/-- Items that stand in order stay as they are. -/
theorem sortByInsertion_eq_self {items : List α} (h : Ascends lt items) :
    sortByInsertion lt items = items := by
  unfold sortByInsertion
  rw [leadingRun_eq_self h]
  rfl

end Triage
