import Mathlib.Data.List.Induction
import Mathlib.Data.List.Nodup
import Mathlib.Data.List.Perm.Subperm

/-!
# First occurrences

`eraseDups` keeps the first occurrence of each value. It can be taken of a front part or of a back
part of a list beforehand (`eraseDups_eraseDups_append`, `eraseDups_append_eraseDups`), even if no
more than the first values of that part are left (`take_eraseDups_take_append`,
`take_eraseDups_append_take`), as long as no more of the whole are wanted.
-/

namespace Triage

variable {α : Type} [BEq α] [LawfulBEq α]

theorem eraseDups_concat (l : List α) (a : α) :
    (l ++ [a]).eraseDups = if a ∈ l then l.eraseDups else l.eraseDups ++ [a] := by
  rw [List.eraseDups_append]
  split_ifs with h
  · simp [List.removeAll, h]
  · simp [List.removeAll, h, List.eraseDups_cons]

theorem nodup_eraseDups (l : List α) : l.eraseDups.Nodup := by
  induction l using List.reverseRecOn with
  | nil => simp
  | append_singleton l a ih =>
    rw [eraseDups_concat]
    split_ifs with h
    · exact ih
    · rw [← List.mem_eraseDups] at h
      rw [← List.concat_eq_append]
      exact ih.concat h

theorem eraseDups_eq_self {l : List α} (h : l.Nodup) : l.eraseDups = l := by
  induction l using List.reverseRecOn with
  | nil => simp
  | append_singleton l a ih =>
    obtain ⟨hl, -, hdisjoint⟩ := List.nodup_append.mp h
    have ha : a ∉ l := fun hmem => hdisjoint a hmem a (List.mem_singleton_self a) rfl
    rw [eraseDups_concat, if_neg ha, ih hl]

theorem eraseDups_filter (p : α → Bool) (l : List α) :
    (l.filter p).eraseDups = l.eraseDups.filter p := by
  induction l using List.reverseRecOn with
  | nil => simp
  | append_singleton l a ih =>
    rw [List.filter_append, eraseDups_concat]
    cases hp : p a with
    | true =>
      have hsingle : [a].filter p = [a] := by simp [hp]
      have hmem : a ∈ l.filter p ↔ a ∈ l := by simp [hp]
      rw [hsingle, eraseDups_concat, ih]
      simp only [hmem]
      split_ifs with h
      · rfl
      · rw [List.filter_append, hsingle]
    | false =>
      have hnone : [a].filter p = [] := by simp [hp]
      rw [hnone, List.append_nil, ih]
      split_ifs with h
      · rfl
      · rw [List.filter_append, hnone, List.append_nil]

/-- The first occurrences in a list are those in its front part, then those behind it that are not
in the front part. -/
theorem eraseDups_append_eq (l l' : List α) :
    (l ++ l').eraseDups = l.eraseDups ++ l'.eraseDups.filter fun a => !l.elem a := by
  rw [List.eraseDups_append, List.removeAll, eraseDups_filter]

theorem eraseDups_append_of_subset {l l' : List α} (h : l' ⊆ l) :
    (l ++ l').eraseDups = l.eraseDups := by
  have hnone : (l'.eraseDups.filter fun a => !l.elem a) = [] := by
    rw [List.filter_eq_nil_iff]
    intro a ha
    simpa using h (List.mem_eraseDups.mp ha)
  rw [eraseDups_append_eq, hnone, List.append_nil]

theorem eraseDups_eraseDups_append (l l' : List α) :
    (l.eraseDups ++ l').eraseDups = (l ++ l').eraseDups := by
  rw [eraseDups_append_eq, eraseDups_append_eq, eraseDups_eq_self (nodup_eraseDups l)]
  simp

theorem eraseDups_append_eraseDups (l l' : List α) :
    (l ++ l'.eraseDups).eraseDups = (l ++ l').eraseDups := by
  rw [eraseDups_append_eq, eraseDups_append_eq, eraseDups_eq_self (nodup_eraseDups l')]

/-! ### Distinct values -/

omit [BEq α] [LawfulBEq α] in
/-- Of elements with distinct values, the first one with the value of an element is that element. -/
theorem find?_eq_some_of_nodup {β : Type} [DecidableEq β] {g : α → β} {items : List α}
    (h : (items.map g).Nodup) {a : α} (ha : a ∈ items) :
    items.find? (fun b => g b = g a) = some a := by
  induction items with
  | nil => exact absurd ha List.not_mem_nil
  | cons b rest ih =>
    rw [List.map_cons, List.nodup_cons] at h
    rcases List.mem_cons.mp ha with rfl | ha
    · rw [List.find?_cons_of_pos (by simp)]
    · have hne : ¬ g b = g a := by
        intro heq
        exact h.1 (heq ▸ List.mem_map_of_mem ha)
      rw [List.find?_cons_of_neg (by simpa using hne)]
      exact ih h.2 ha

/-! ### Limits -/

/-- Of the front part, no more first occurrences are needed than of the whole. -/
theorem take_eraseDups_take_append (n : ℕ) (l l' : List α) :
    (l.eraseDups.take n ++ l').eraseDups.take n = (l ++ l').eraseDups.take n := by
  by_cases hlen : l.eraseDups.length ≤ n
  · rw [List.take_of_length_le hlen, eraseDups_eraseDups_append]
  · have htaken : n = (l.eraseDups.take n).length := by
      rw [List.length_take]
      omega
    have hnodup : (l.eraseDups.take n).Nodup := (nodup_eraseDups l).sublist (List.take_sublist ..)
    rw [eraseDups_append_eq, eraseDups_append_eq, eraseDups_eq_self hnodup,
      List.take_append_of_le_length (Nat.le_of_eq htaken), List.take_take, Nat.min_self,
      List.take_append_of_le_length (Nat.le_of_not_le hlen)]

/-- Of the back part, no more first occurrences are needed than of the whole: each of them that is
in the front part already stands there for one of the whole. -/
theorem take_eraseDups_append_take (n : ℕ) (l l' : List α) :
    (l ++ l'.eraseDups.take n).eraseDups.take n = (l ++ l').eraseDups.take n := by
  by_cases hlen : l'.eraseDups.length ≤ n
  · rw [List.take_of_length_le hlen, eraseDups_append_eraseDups]
  · have hnodup : (l'.eraseDups.take n).Nodup := (nodup_eraseDups l').sublist (List.take_sublist ..)
    rw [eraseDups_append_eq, eraseDups_append_eq, eraseDups_eq_self hnodup]
    have hsplit : l'.eraseDups.filter (fun a => !l.elem a) =
        (l'.eraseDups.take n).filter (fun a => !l.elem a) ++
          (l'.eraseDups.drop n).filter fun a => !l.elem a := by
      rw [← List.filter_append, List.take_append_drop]
    have hfull : n ≤ (l.eraseDups ++
        (l'.eraseDups.take n).filter fun a => !l.elem a).length := by
      have hcount := List.length_eq_length_filter_add (l := l'.eraseDups.take n) fun a => l.elem a
      have hsubset : (l'.eraseDups.take n).filter (fun a => l.elem a) ⊆ l.eraseDups := by
        intro a ha
        rw [List.mem_eraseDups]
        simpa using (List.mem_filter.mp ha).2
      have hle := ((hnodup.filter _).subperm hsubset).length_le
      rw [List.length_take] at hcount
      rw [List.length_append]
      omega
    rw [hsplit, ← List.append_assoc, List.take_append_of_le_length hfull]

/-! ### Adjacent repetitions -/

theorem mem_eraseRepsBy_loop {a b : α} {l kept : List α} :
    a ∈ List.eraseRepsBy.loop (· == ·) b l kept ↔ a ∈ b :: l ∨ a ∈ kept := by
  induction l generalizing b kept with
  | nil => simp [List.eraseRepsBy.loop, or_comm]
  | cons c l ih =>
    rw [List.eraseRepsBy.loop]
    cases hbc : b == c with
    | true =>
      obtain rfl := eq_of_beq hbc
      simp [ih]
    | false => simp [ih, or_left_comm, or_assoc]

theorem mem_eraseReps {a : α} {l : List α} : a ∈ l.eraseReps ↔ a ∈ l := by
  cases l with
  | nil => rfl
  | cons b l =>
    show a ∈ List.eraseRepsBy.loop (· == ·) b l [] ↔ a ∈ b :: l
    rw [mem_eraseRepsBy_loop, or_iff_left List.not_mem_nil]

end Triage
