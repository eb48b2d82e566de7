import Triage.Proofs.OrderedMap
import Triage.Proofs.Refinement.Order
import Triage.Proofs.Refinement.Selection

/-!
# The strongest of each group

`keepStrongest` decides each group of items that say the same by itself, in a run through the group
that prefers the known item unless the next one is stronger (`mem_keepStrongest_iff`), and lists the
groups in the order in which they begin (`map_dedupeKey_keepStrongest`). If all scores of a group
are numbers, its survivor is the first of the highest score; a score that is no number is neither
below nor above any other, so a weak item may survive behind it (`not_strongest_behind_doubtful`).
-/

namespace Triage

/-! ### Groups -/

/-- The items that say one thing. -/
def groupOf (key : DedupeKey) (items : List Ranked) : List Ranked :=
  items.filter fun item => item.dedupeKey = key

theorem mem_groupOf {key : DedupeKey} {items : List Ranked} {item : Ranked} :
    item ∈ groupOf key items ↔ item ∈ items ∧ item.dedupeKey = key := by
  rw [groupOf, List.mem_filter, decide_eq_true_iff]

theorem groupOf_concat (key : DedupeKey) (items : List Ranked) (item : Ranked) :
    groupOf key (items ++ [item]) =
      groupOf key items ++ if item.dedupeKey = key then [item] else [] := by
  rw [groupOf, List.filter_append, List.filter_singleton, Bool.cond_decide]
  rfl

/-- Of two items that say the same, the second one if it is stronger, and else the first one. -/
def Ranked.against (known item : Ranked) : Ranked :=
  if item.score ≤ known.score then known else item

/-- The item of a group that is left at the end. -/
def survivor? : List Ranked → Option Ranked
  | [] => none
  | item :: rest => some (rest.foldl Ranked.against item)

theorem survivor?_concat (group : List Ranked) (item : Ranked) :
    survivor? (group ++ [item]) = some ((survivor? group).elim item (·.against item)) := by
  cases group with
  | nil => rfl
  | cons head rest =>
    rw [List.cons_append, survivor?, List.foldl_append]
    rfl

/-! ### A run through all items -/

namespace Strongest

/-- An item that comes in changes what is known of its own group only. -/
theorem get?_receive (s : Strongest) (item : Ranked) (key : DedupeKey) :
    (s.receive item).items.get? key =
      if item.dedupeKey = key then some ((s.items.get? key).elim item (·.against item))
      else s.items.get? key := by
  cases hknown : s.items.get? item.dedupeKey with
  | none =>
    rw [receive_new hknown, OrderedMap.get?_insert]
    by_cases hkey : item.dedupeKey = key
    · rw [if_pos hkey, if_pos hkey.symm, ← hkey, hknown]
      rfl
    · rw [if_neg hkey, if_neg (Ne.symm hkey)]
  | some known =>
    rw [receive_known hknown]
    by_cases hkey : item.dedupeKey = key
    · subst hkey
      rw [if_pos rfl, hknown, Option.elim_some, Ranked.against]
      split_ifs with hweaker
      · exact hknown
      · rw [OrderedMap.get?_insert, if_pos rfl]
    · rw [if_neg hkey]
      split_ifs with hweaker
      · rfl
      · rw [OrderedMap.get?_insert, if_neg (Ne.symm hkey)]

theorem keys_receive (s : Strongest) (item : Ranked) :
    (s.receive item).items.keys =
      if item.dedupeKey ∈ s.items.keys then s.items.keys
      else s.items.keys ++ [item.dedupeKey] := by
  rw [← OrderedMap.keys_insert s.items item.dedupeKey item]
  cases hfind : s.items.get? item.dedupeKey with
  | none => rw [receive_new hfind]
  | some known =>
    rw [receive_known hfind]
    -- A known key stays where it is, whichever of the two items is the stronger.
    have hknown : item.dedupeKey ∈ s.items.keys := by
      by_contra hnew
      rw [OrderedMap.get?, (OrderedMap.find_eq_none_iff _ _).mpr hnew] at hfind
      exact absurd hfind (by simp)
    show (if item.score ≤ known.score then s.items else _).keys = _
    split_ifs with hweaker
    · rw [OrderedMap.keys_insert, if_pos hknown]
    · rfl

/-- Each group goes its own way. -/
theorem get?_foldl_receive (items : List Ranked) (key : DedupeKey) :
    (items.foldl Strongest.receive .empty).items.get? key = survivor? (groupOf key items) := by
  -- The induction is on the items from the back, as the run takes them in.
  induction items using List.reverseRecOn with
  | nil => rfl
  | append_singleton items item ih =>
    rw [List.foldl_concat, get?_receive, ih, groupOf_concat]
    split_ifs with hkey
    · exact (survivor?_concat (groupOf key items) item).symm
    · rw [List.append_nil]

end Strongest

/-! ### What is kept -/

/-- What is kept is what is left of each group. -/
theorem mem_keepStrongest_iff {items : List Ranked} {item : Ranked} :
    item ∈ (keepStrongest items).kept ↔
      survivor? (groupOf item.dedupeKey items) = some item := by
  have hkeyed := (holds_keepStrongest items).isKeyed
  rw [← Strongest.get?_foldl_receive, ← Option.mem_toList, ← hkeyed.filter_values,
    List.mem_filter, decide_eq_true_iff]
  exact (and_iff_left rfl).symm

/-- The groups stand in the order in which they begin. -/
theorem map_dedupeKey_keepStrongest (items : List Ranked) :
    (keepStrongest items).kept.map Ranked.dedupeKey =
      (items.map Ranked.dedupeKey).eraseDups := by
  have hkeys : (keepStrongest items).kept.map Ranked.dedupeKey =
      (items.foldl Strongest.receive .empty).items.keys :=
    (holds_keepStrongest items).isKeyed.map_values
  have hempty : Strongest.empty.items.keys = ([] : List DedupeKey).eraseDups := rfl
  rw [hkeys, OrderedMap.keys_foldl (fun s : Strongest => s.items.keys) Strongest.keys_receive
    hempty items, List.nil_append]

theorem nodup_kept (items : List Ranked) : (keepStrongest items).kept.Nodup :=
  (nodup_keepStrongest items).of_map Ranked.dedupeKey

/-- Of what says the same as an item, one stays. -/
theorem exists_kept_of_mem {items : List Ranked} {item : Ranked} (h : item ∈ items) :
    ∃ known ∈ (keepStrongest items).kept, known.dedupeKey = item.dedupeKey := by
  have hmem : item.dedupeKey ∈ (keepStrongest items).kept.map Ranked.dedupeKey := by
    rw [map_dedupeKey_keepStrongest, List.mem_eraseDups]
    exact List.mem_map_of_mem h
  exact List.mem_map.mp hmem

/-! ### The first of the highest score -/

/-- Whether an item is the first of the highest score in a list. -/
def IsFirstStrongest (items : List Ranked) (item : Ranked) : Prop :=
  ∃ front back, items = front ++ item :: back ∧
    (∀ other ∈ front, other.score < item.score) ∧ ∀ other ∈ back, other.score ≤ item.score

namespace IsFirstStrongest

variable {items : List Ranked} {item other : Ranked}

theorem mem (h : IsFirstStrongest items item) : item ∈ items := by
  obtain ⟨front, back, rfl, -, -⟩ := h
  exact List.mem_append_right front (List.mem_cons_self ..)

theorem score_le (h : IsFirstStrongest items item) (hplaced : ∀ other ∈ items, other.IsPlaced)
    (hother : other ∈ items) : other.score ≤ item.score := by
  have hitem := hplaced item h.mem
  obtain ⟨front, back, rfl, hfront, hback⟩ := h
  rcases List.mem_append.mp hother with hmem | hmem
  · have hlt := hfront other hmem
    rw [Ranked.score_lt_iff (hplaced other hother) hitem] at hlt
    rw [Ranked.score_le_iff (hplaced other hother) hitem]
    exact hlt.le
  · rcases List.mem_cons.mp hmem with rfl | hmem
    · rw [Ranked.score_le_iff hitem hitem]
    · exact hback other hmem

/-- An item that others are compared with is the first of the highest score only if all scores are
numbers. -/
theorem isPlaced_or (h : IsFirstStrongest items item) :
    (∀ other ∈ items, other.IsPlaced) ∨ items = [item] := by
  obtain ⟨front, back, rfl, hfront, hback⟩ := h
  have hboth : ∀ other ∈ front ++ back, other.IsPlaced ∧ item.IsPlaced := by
    intro other hother
    rcases List.mem_append.mp hother with hother | hother
    · obtain ⟨r, s, hr, hs, -⟩ := Number.lt_iff.mp (hfront other hother)
      exact ⟨Option.isSome_of_eq_some hr, Option.isSome_of_eq_some hs⟩
    · obtain ⟨r, s, hr, hs, -⟩ := Number.le_iff.mp (hback other hother)
      exact ⟨Option.isSome_of_eq_some hr, Option.isSome_of_eq_some hs⟩
  cases hothers : front ++ back with
  | nil =>
    obtain ⟨rfl, rfl⟩ := List.append_eq_nil_iff.mp hothers
    exact Or.inr rfl
  | cons head rest =>
    have hitem : item.IsPlaced := (hboth head (hothers ▸ List.mem_cons_self ..)).2
    refine Or.inl fun other hother => ?_
    rcases List.mem_append.mp hother with hother | hother
    · exact (hboth other (List.mem_append_left _ hother)).1
    · rcases List.mem_cons.mp hother with rfl | hother
      · exact hitem
      · exact (hboth other (List.mem_append_right _ hother)).1

end IsFirstStrongest

/-- If all scores are numbers, the first item of the highest score is left. -/
theorem isFirstStrongest_of_survivor? {group : List Ranked} {item : Ranked}
    (hplaced : ∀ other ∈ group, other.IsPlaced) (h : survivor? group = some item) :
    IsFirstStrongest group item := by
  -- The induction is on the group from the back: the next item is compared with the first of the
  -- highest score so far, and either goes behind it or has all the others in front of it.
  induction group using List.reverseRecOn generalizing item with
  | nil => exact absurd h (by simp [survivor?])
  | append_singleton group next ih =>
    have hnext : next.IsPlaced := hplaced next (by simp)
    have hgroup : ∀ other ∈ group, other.IsPlaced :=
      fun other hother => hplaced other (List.mem_append_left _ hother)
    rw [survivor?_concat, Option.some.injEq] at h
    cases hleft : survivor? group with
    | none =>
      have hnil : group = [] := by
        cases group with
        | nil => rfl
        | cons head rest => exact absurd hleft (by simp [survivor?])
      rw [hleft, Option.elim_none] at h
      subst hnil h
      exact ⟨[], [], rfl, by simp, by simp⟩
    | some known =>
      have hfirst := ih hgroup hleft
      have hknown := hgroup known hfirst.mem
      rw [hleft, Option.elim_some, Ranked.against] at h
      split_ifs at h with hweaker
      · subst h
        obtain ⟨front, back, rfl, hfront, hback⟩ := hfirst
        refine ⟨front, back ++ [next], by simp, hfront, ?_⟩
        rw [List.forall_mem_append, List.forall_mem_singleton]
        exact ⟨hback, hweaker⟩
      · subst h
        rw [Ranked.score_le_iff hnext hknown, not_le] at hweaker
        refine ⟨group, [], rfl, fun other hother => ?_, by simp⟩
        have hle := hfirst.score_le hgroup hother
        rw [Ranked.score_le_iff (hgroup other hother) hknown] at hle
        rw [Ranked.score_lt_iff (hgroup other hother) hnext]
        exact hweaker.trans_le hle

/-! ### The whole selection -/

/-- One item of each group is kept, in the order in which the groups begin, and all others are
counted; it is the first of the highest score iff the group has no other item or all its scores are
numbers. -/
theorem keepStrongest_spec (items : List Ranked) :
    (keepStrongest items).kept.map Ranked.dedupeKey = (items.map Ranked.dedupeKey).eraseDups ∧
    (keepStrongest items).dropped + (items.map Ranked.dedupeKey).eraseDups.length =
      items.length ∧
    ∀ item ∈ (keepStrongest items).kept,
      (IsFirstStrongest (groupOf item.dedupeKey items) item ↔
        (∀ other ∈ groupOf item.dedupeKey items, other.score.rank?.isSome = true) ∨
          groupOf item.dedupeKey items = [item]) := by
  have hgroups := map_dedupeKey_keepStrongest items
  refine ⟨hgroups, ?_, ?_⟩
  · have hcounted := length_keepStrongest items
    rw [← hgroups, List.length_map]
    omega
  · intro item hitem
    refine ⟨IsFirstStrongest.isPlaced_or, ?_⟩
    rintro (hplaced | hsingle)
    · exact isFirstStrongest_of_survivor? hplaced (mem_keepStrongest_iff.mp hitem)
    · exact ⟨[], [], hsingle, by simp, by simp⟩

/-- Items of two groups by turns, with a repeated highest score. -/
def interleavedItems : List Ranked :=
  [⟨remark "a" "one" 1, 3⟩, ⟨remark "b" "two" 1, 9⟩, ⟨remark "c" "One!" 1, 5⟩,
    ⟨remark "d" "one" 1, 5⟩]

/-- The group that begins first stays in front, with its first item of the highest score. -/
theorem keepStrongest_interleavedItems :
    (keepStrongest interleavedItems).kept =
      [⟨remark "c" "One!" 1, 5⟩, ⟨remark "b" "two" 1, 9⟩] ∧
    (keepStrongest interleavedItems).dropped + 2 = 4 ∧
    IsFirstStrongest (groupOf (remark "c" "One!" 1).dedupeKey interleavedItems)
      ⟨remark "c" "One!" 1, 5⟩ := by
  obtain ⟨-, hcounted, hstrongest⟩ := keepStrongest_spec interleavedItems
  have hkept : (keepStrongest interleavedItems).kept =
      [⟨remark "c" "One!" 1, 5⟩, ⟨remark "b" "two" 1, 9⟩] := by
    decide +kernel
  have hgroups : (interleavedItems.map Ranked.dedupeKey).eraseDups.length = 2 := by
    decide +kernel
  rw [hgroups] at hcounted
  refine ⟨hkept, hcounted, (hstrongest ⟨remark "c" "One!" 1, 5⟩ ?_).mpr (Or.inl ?_)⟩
  · rw [hkept]
    exact List.mem_cons_self ..
  · decide +kernel

/-- Items of one group, the second one with a score that is no number. -/
def doubtfulItems : List Ranked :=
  [⟨remark "a" "one" 1, 5⟩, ⟨remark "b" "one" 1, .real (.nan false)⟩, ⟨remark "c" "one" 1, 3⟩]

/-- Behind a score that is no number, an item is kept although another one of its group has a higher
score. -/
theorem not_strongest_behind_doubtful :
    ∃ item ∈ (keepStrongest doubtfulItems).kept,
      (∃ other ∈ groupOf item.dedupeKey doubtfulItems, item.score < other.score) ∧
      ¬ IsFirstStrongest (groupOf item.dedupeKey doubtfulItems) item := by
  refine ⟨⟨remark "c" "one" 1, 3⟩, by decide +kernel, ⟨⟨remark "a" "one" 1, 5⟩, ?_⟩, ?_⟩
  · decide +kernel
  · intro hfirst
    -- The group has another item, so all its scores would be numbers.
    rcases hfirst.isPlaced_or with hplaced | hsingle
    · have hdoubtful : (⟨remark "b" "one" 1, .real (.nan false)⟩ : Ranked) ∈
          groupOf (remark "c" "one" 1).dedupeKey doubtfulItems := by
        decide +kernel
      exact absurd (hplaced _ hdoubtful) (by decide)
    · revert hsingle
      decide +kernel

end Triage
