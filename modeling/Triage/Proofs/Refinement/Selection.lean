import Triage.Refinement.Basic
import Triage.Proofs.Finding.Numbering
import Triage.Proofs.OrderedMap
import Mathlib.Data.List.Nodup
import Mathlib.Data.List.Perm.Subperm

/-!
# Correctness of selection

Both selections keep some of the items and count all others. `keepStrongest` keeps no two items that
say the same (`nodup_keepStrongest`), and `capFrom` no more inline items of a file than its limit
(`countP_capFrom_le`). Items among which nothing is to be dropped all stay, in their order
(`keepStrongest_eq_self`, `capFrom_eq_self`).
-/

namespace Triage

/-! ### The strongest items -/

/-- What an item says. -/
def Ranked.dedupeKey (item : Ranked) : DedupeKey :=
  item.finding.dedupeKey

namespace Strongest

theorem receive_new {s : Strongest} {item : Ranked} (h : s.items.get? item.dedupeKey = none) :
    s.receive item = ⟨s.items.insert item.dedupeKey item, s.dropped⟩ := by
  unfold receive
  simp only
  rw [show s.items.get? item.finding.dedupeKey = none from h]
  rfl

theorem receive_known {s : Strongest} {item known : Ranked}
    (h : s.items.get? item.dedupeKey = some known) :
    s.receive item =
      ⟨if item.score ≤ known.score then s.items else s.items.insert item.dedupeKey item,
        s.dropped + 1⟩ := by
  unfold receive
  simp only
  rw [show s.items.get? item.finding.dedupeKey = some known from h]
  rfl

/-- What holds of the strongest items after some items were taken in. -/
structure Holds (s : Strongest) (seen : List Ranked) : Prop where
  keyed : ∀ p ∈ s.items.entries, p.2.dedupeKey = p.1
  nodup : s.items.keys.Nodup
  values : s.items.values.Subperm seen
  counted : s.items.values.length + s.dropped = seen.length

theorem holds_empty : Holds .empty [] where
  keyed := OrderedMap.isKeyed_empty.keyed
  nodup := List.nodup_nil
  values := List.Subperm.refl _
  counted := rfl

theorem Holds.isKeyed {s : Strongest} {seen : List Ranked} (h : s.Holds seen) :
    s.items.IsKeyed Ranked.dedupeKey :=
  ⟨h.keyed, h.nodup⟩

/-- A new value comes in, at best for an old one. -/
theorem subperm_values_put (k : DedupeKey) (item : Ranked) (l : List (DedupeKey × Ranked)) :
    ((OrderedMap.put k item l).map Prod.snd).Subperm (item :: l.map Prod.snd) := by
  induction l with
  | nil => exact List.Subperm.refl _
  | cons p rest ih =>
    obtain ⟨b, w⟩ := p
    rw [OrderedMap.put]
    split_ifs with hb
    · apply List.Sublist.subperm
      simp
    · simp only [List.map_cons]
      have hcons := (List.subperm_cons w).mpr ih
      exact hcons.trans (List.Perm.swap ..).subperm

theorem subperm_values_insert {m : OrderedMap DedupeKey Ranked} {seen : List Ranked}
    (h : m.values.Subperm seen) (k : DedupeKey) (item : Ranked) :
    (m.insert k item).values.Subperm (seen ++ [item]) := by
  have hput : (m.insert k item).values.Subperm (item :: m.values) :=
    subperm_values_put k item m.entries
  have hcons : (item :: m.values).Subperm (item :: seen) := (List.subperm_cons item).mpr h
  exact (hput.trans hcons).trans (List.perm_append_singleton item seen).symm.subperm

/-- Taking in one more item either keeps it, for a new key or an old one, or counts it. -/
theorem Holds.receive {s : Strongest} {seen : List Ranked} (h : s.Holds seen) (item : Ranked) :
    (s.receive item).Holds (seen ++ [item]) := by
  have hlen : (seen ++ [item]).length = seen.length + 1 := by
    rw [List.length_append, List.length_singleton]
  have hcounted := h.counted
  obtain ⟨hkeyed, hnodup⟩ := h.isKeyed.insert (rfl : item.dedupeKey = _)
  cases hfind : s.items.get? item.dedupeKey with
  | none =>
    rw [receive_new hfind]
    refine ⟨hkeyed, hnodup, subperm_values_insert h.values _ _, ?_⟩
    have hvalues : (s.items.insert item.dedupeKey item).values.length =
        s.items.values.length + 1 := by
      unfold OrderedMap.values OrderedMap.insert
      rw [OrderedMap.put_eq_append hfind item]
      simp
    rw [hvalues, hlen]
    show s.items.values.length + 1 + s.dropped = _
    omega
  | some known =>
    rw [receive_known hfind]
    -- Whichever of the two stays, one is counted and the number of keys does not change.
    split_ifs with hle
    · refine ⟨h.keyed, h.nodup, ?_, ?_⟩
      · exact h.values.trans (List.sublist_append_left seen [item]).subperm
      · rw [hlen]
        show s.items.values.length + (s.dropped + 1) = _
        omega
    · refine ⟨hkeyed, hnodup, subperm_values_insert h.values _ _, ?_⟩
      have hvalues : (s.items.insert item.dedupeKey item).values.length =
          s.items.values.length := by
        unfold OrderedMap.values OrderedMap.insert
        have hsome : (OrderedMap.find item.dedupeKey s.items.entries).isSome = true := by
          rw [← OrderedMap.get?, hfind]
          rfl
        rw [List.length_map, List.length_map, OrderedMap.length_put hsome]
      rw [hvalues, hlen]
      show s.items.values.length + (s.dropped + 1) = _
      omega

theorem Holds.foldl {s : Strongest} {seen : List Ranked} (h : s.Holds seen)
    (items : List Ranked) : (items.foldl Strongest.receive s).Holds (seen ++ items) := by
  induction items generalizing s seen with
  | nil =>
    rw [List.append_nil]
    exact h
  | cons item rest ih =>
    have hstep := ih (h.receive item)
    rwa [List.append_assoc] at hstep

/-- Items that say something new are all taken in. -/
theorem foldl_receive_eq {s : Strongest} {items : List Ranked}
    (hnodup : (s.items.keys ++ items.map Ranked.dedupeKey).Nodup) :
    items.foldl Strongest.receive s =
      ⟨⟨s.items.entries ++ items.map fun item => (item.dedupeKey, item)⟩, s.dropped⟩ := by
  induction items generalizing s with
  | nil =>
    rw [List.map_nil, List.append_nil]
    rfl
  | cons item rest ih =>
    have hnew : OrderedMap.find item.dedupeKey s.items.entries = none := by
      rw [OrderedMap.find_eq_none_iff]
      intro hmem
      have hdisjoint := (List.nodup_append.mp hnodup).2.2
      exact hdisjoint _ hmem _ (List.mem_cons_self ..) rfl
    have hreceive : s.receive item =
        ⟨⟨s.items.entries ++ [(item.dedupeKey, item)]⟩, s.dropped⟩ := by
      rw [receive_new hnew, OrderedMap.insert, OrderedMap.put_eq_append hnew]
    rw [List.foldl_cons, hreceive, ih]
    · simp
    · show (List.map Prod.fst (s.items.entries ++ [(item.dedupeKey, item)]) ++
        rest.map Ranked.dedupeKey).Nodup
      rw [List.map_append, List.append_assoc]
      exact hnodup

end Strongest

theorem holds_keepStrongest (items : List Ranked) :
    (items.foldl Strongest.receive .empty).Holds items := by
  have h := Strongest.holds_empty.foldl items
  rwa [List.nil_append] at h

/-- The strongest items are some of the items. -/
theorem keepStrongest_subperm (items : List Ranked) :
    (keepStrongest items).kept.Subperm items :=
  (holds_keepStrongest items).values

/-- All others are counted. -/
theorem length_keepStrongest (items : List Ranked) :
    (keepStrongest items).kept.length + (keepStrongest items).dropped = items.length :=
  (holds_keepStrongest items).counted

/-- No two of the strongest items say the same. -/
theorem nodup_keepStrongest (items : List Ranked) :
    ((keepStrongest items).kept.map Ranked.dedupeKey).Nodup := by
  have h := (holds_keepStrongest items).isKeyed
  have hkeys : (keepStrongest items).kept.map Ranked.dedupeKey =
      (items.foldl Strongest.receive .empty).items.keys := h.map_values
  rw [hkeys]
  exact h.nodup

/-- Items that say different things all stay. -/
theorem keepStrongest_eq_self {items : List Ranked}
    (h : (items.map Ranked.dedupeKey).Nodup) : keepStrongest items = ⟨items, 0⟩ := by
  have hfold : items.foldl Strongest.receive .empty = _ := Strongest.foldl_receive_eq h
  unfold keepStrongest
  rw [hfold]
  show Selection.mk ((items.map fun item => (item.dedupeKey, item)).map Prod.snd) 0 = _
  rw [List.map_map]
  congr 1
  exact List.map_id items

/-! ### Inline items of each file -/

/-- Whether an item is an inline comment on a file. -/
def Ranked.isInlineOn (path : String) (item : Ranked) : Bool :=
  !item.finding.isSummary && item.finding.path = path

section

variable {limit : ℕ} {forcesSummary : Bool}

/-- What is kept stands in the order of the items. -/
theorem capFrom_sublist (counts : Tally) (items : List Ranked) :
    (capFrom limit forcesSummary counts items).kept.Sublist items := by
  induction items generalizing counts with
  | nil => exact List.Sublist.refl _
  | cons item rest ih =>
    unfold capFrom
    simp only
    split_ifs
    · exact (ih counts).cons_cons item
    · exact (ih counts).cons item
    · exact (ih _).cons_cons item

/-- All others are counted. -/
theorem length_capFrom (counts : Tally) (items : List Ranked) :
    (capFrom limit forcesSummary counts items).kept.length +
      (capFrom limit forcesSummary counts items).dropped = items.length := by
  induction items generalizing counts with
  | nil => rfl
  | cons item rest ih =>
    unfold capFrom
    simp only
    split_ifs
    · have := ih counts
      simp only [Selection.keep, List.length_cons]
      omega
    · have := ih counts
      simp only [Selection.drop, List.length_cons]
      omega
    · have := ih (counts.meet item.finding.path)
      simp only [Selection.keep, List.length_cons]
      omega

/-- No file gets more inline comments than its limit, unless every comment goes into the
summary. -/
theorem countP_capFrom_le (counts : Tally) (items : List Ranked) (path : String)
    (hforces : forcesSummary = false) :
    (capFrom limit forcesSummary counts items).kept.countP (Ranked.isInlineOn path) ≤
      limit - counts.count path := by
  induction items generalizing counts with
  | nil => exact Nat.zero_le _
  | cons item rest ih =>
    unfold capFrom
    simp only [hforces, Bool.false_or]
    split_ifs with hsummary hfull
    · have hnot : item.isInlineOn path = false := by
        unfold Ranked.isInlineOn
        rw [hsummary]
        rfl
      have := ih counts
      rw [hforces] at this
      rw [Selection.keep, List.countP_cons_of_neg (Bool.eq_false_iff.mp hnot)]
      exact this
    · have := ih counts
      rw [hforces] at this
      exact this
    · have := ih (counts.meet item.finding.path)
      rw [hforces, Tally.count_meet] at this
      rw [Selection.keep, List.countP_cons]
      -- The item takes one of the places that its file has left.
      by_cases hpath : item.finding.path = path
      · rw [if_pos hpath] at this
        rw [hpath] at hfull
        split_ifs <;> omega
      · have hnot : item.isInlineOn path = false := by
          unfold Ranked.isInlineOn
          simp [hpath]
        rw [if_neg hpath] at this
        rw [hnot, if_neg Bool.false_ne_true]
        omega

/-- Items within the limits all stay. -/
theorem capFrom_eq_self (counts : Tally) {items : List Ranked}
    (h : forcesSummary = false → ∀ path,
      items.countP (Ranked.isInlineOn path) ≤ limit - counts.count path) :
    capFrom limit forcesSummary counts items = ⟨items, 0⟩ := by
  induction items generalizing counts with
  | nil => rfl
  | cons item rest ih =>
    have hrest : forcesSummary = false → ∀ path,
        rest.countP (Ranked.isInlineOn path) ≤ limit - counts.count path := by
      intro hforces path
      exact Nat.le_trans (List.sublist_cons_self item rest).countP_le (h hforces path)
    unfold capFrom
    simp only
    split_ifs with hfree hfull
    · -- The item counts for no file.
      rw [ih counts hrest]
      rfl
    · rw [Bool.or_eq_true, not_or, Bool.not_eq_true, Bool.not_eq_true] at hfree
      have hinline : item.isInlineOn item.finding.path = true := by
        unfold Ranked.isInlineOn
        simp [hfree.2]
      -- A full file would have more inline items than its limit, with this one.
      have hcount := h hfree.1 item.finding.path
      rw [List.countP_cons_of_pos hinline] at hcount
      omega
    · rw [Bool.or_eq_true, not_or, Bool.not_eq_true, Bool.not_eq_true] at hfree
      have hmeet : forcesSummary = false → ∀ path, rest.countP (Ranked.isInlineOn path) ≤
          limit - (counts.meet item.finding.path).count path := by
        intro hforces path
        rw [Tally.count_meet]
        split_ifs with hpath
        · have hinline : item.isInlineOn path = true := by
            unfold Ranked.isInlineOn
            simp [hfree.2, hpath]
          have hcount := h hforces path
          rw [List.countP_cons_of_pos hinline] at hcount
          omega
        · exact hrest hforces path
      rw [ih _ hmeet]
      rfl

end

end Triage
