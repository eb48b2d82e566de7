import Triage.OrderedMap
import Triage.Proofs.Occurrences

/-!
# Maps told by their keys and values

An ordered map is told by its keys and its look-ups (`ext_get?`). Where the values say what their
keys are (`IsKeyed`), the values of a map tell it as well: the look-up of a key finds the one value
with that key (`IsKeyed.filter_values`). In a map made of pairs, a key has the last value that the
pairs give it (`get?_ofList`), and pairs with distinct keys are its entries. A fold that inserts
under the keys of its items has as keys the first occurrences of these (`keys_foldl`); where the
keys are distinct, it changes the value of each of them once (`get?_foldl`).
-/

namespace Triage.OrderedMap

variable {α β γ : Type} [DecidableEq α]

/-! ### Look-ups -/

theorem find_of_mem {l : List (α × β)} (h : (l.map Prod.fst).Nodup) {p : α × β} (hp : p ∈ l) :
    find p.1 l = some p.2 := by
  induction l with
  | nil => exact absurd hp List.not_mem_nil
  | cons q rest ih =>
    obtain ⟨b, w⟩ := q
    rw [List.map_cons, List.nodup_cons] at h
    rw [find]
    rcases List.mem_cons.mp hp with rfl | hmem
    · rw [if_pos rfl]
    · have hkey : p.1 ∈ rest.map Prod.fst := List.mem_map_of_mem hmem
      have hne : b ≠ p.1 := fun heq => h.1 (heq ▸ hkey)
      rw [if_neg hne, ih h.2 hmem]

/-- The entries of a map are its keys with what is looked up for them. -/
theorem entries_eq {m : OrderedMap α β} (h : m.keys.Nodup) :
    m.entries = m.keys.filterMap fun k => (m.get? k).map (Prod.mk k) := by
  have hentry : ∀ p ∈ m.entries, (m.get? p.1).map (Prod.mk p.1) = some p := by
    intro p hp
    rw [get?, find_of_mem h hp, Option.map_some]
  rw [keys, List.filterMap_map]
  exact List.filterMap_some.symm.trans (List.filterMap_congr hentry).symm

/-- The values of a map are what is looked up for its keys. -/
theorem values_eq {m : OrderedMap α β} (h : m.keys.Nodup) : m.values = m.keys.filterMap m.get? := by
  rw [values, entries_eq h, List.map_filterMap]
  congr 1
  funext k
  rw [Option.map_map]
  exact congrFun Option.map_id _

/-- Maps with the same keys, in one order, and the same look-ups are one. -/
theorem ext_get? {m m' : OrderedMap α β} (h : m.keys.Nodup) (hkeys : m.keys = m'.keys)
    (hget : ∀ k, m.get? k = m'.get? k) : m = m' := by
  have hentries : m.entries = m'.entries := by
    rw [entries_eq h, entries_eq (hkeys ▸ h), hkeys]
    simp only [hget]
  cases m
  cases m'
  rw [mk.injEq]
  exact hentries

/-! ### Maps made of pairs -/

theorem ofList_concat (pairs : List (α × β)) (p : α × β) :
    ofList (pairs ++ [p]) = (ofList pairs).insert p.1 p.2 :=
  List.foldl_concat ..

/-- A key has the last value that is given to it. -/
theorem get?_ofList (pairs : List (α × β)) (k : α) :
    (ofList pairs).get? k = (pairs.reverse.find? (·.1 = k)).map Prod.snd := by
  induction pairs using List.reverseRecOn with
  | nil => rfl
  | append_singleton pairs p ih =>
    rw [ofList_concat, get?_insert, List.reverse_append, List.reverse_singleton,
      List.singleton_append, List.find?_cons]
    by_cases hk : k = p.1
    · simp [hk]
    · simp [hk, Ne.symm hk, ih]

theorem entries_ofList {pairs : List (α × β)} (h : (pairs.map Prod.fst).Nodup) :
    (ofList pairs).entries = pairs := by
  induction pairs using List.reverseRecOn with
  | nil => rfl
  | append_singleton pairs p ih =>
    rw [List.map_append, List.nodup_append] at h
    obtain ⟨hpairs, -, hdisjoint⟩ := h
    have hnew : find p.1 pairs = none := by
      rw [find_eq_none_iff]
      intro hmem
      exact hdisjoint _ hmem _ (List.mem_singleton_self p.1) rfl
    rw [ofList_concat, insert, ih hpairs, put_eq_append hnew]

/-! ### Keyed maps -/

/-- Whether every value stands under its own key, once. -/
structure IsKeyed (m : OrderedMap α β) (key : β → α) : Prop where
  keyed : ∀ p ∈ m.entries, key p.2 = p.1
  nodup : m.keys.Nodup

variable {m : OrderedMap α β} {key : β → α}

omit [DecidableEq α] in
theorem isKeyed_empty : (empty : OrderedMap α β).IsKeyed key where
  keyed := by
    intro p hp
    exact absurd hp List.not_mem_nil
  nodup := List.nodup_nil

theorem IsKeyed.insert (h : m.IsKeyed key) {k : α} {v : β} (hv : key v = k) :
    (m.insert k v).IsKeyed key where
  keyed := by
    intro p hp
    rcases mem_put hp with rfl | hp
    · exact hv
    · exact h.keyed p hp
  nodup := nodup_keys_insert h.nodup k v

omit [DecidableEq α] in
theorem IsKeyed.map_values (h : m.IsKeyed key) : m.values.map key = m.keys := by
  rw [values, keys, List.map_map]
  exact List.map_congr_left h.keyed

/-- The values with a key are what a look-up of the key finds. -/
theorem IsKeyed.filter_values (h : m.IsKeyed key) (k : α) :
    m.values.filter (fun v => key v = k) = (m.get? k).toList := by
  obtain ⟨entries⟩ := m
  obtain ⟨hkeyed, hnodup⟩ := h
  simp only [values, keys, get?] at hkeyed hnodup ⊢
  induction entries with
  | nil => rfl
  | cons p rest ih =>
    obtain ⟨b, w⟩ := p
    rw [List.forall_mem_cons] at hkeyed
    rw [List.map_cons, List.nodup_cons] at hnodup
    have hw : key w = b := hkeyed.1
    have hrest := ih hkeyed.2 hnodup.2
    rw [List.map_cons, find]
    by_cases hb : b = k
    · -- The key comes once, so the rest has no value for it.
      have hnone : find k rest = none := (find_eq_none_iff k rest).mpr (hb ▸ hnodup.1)
      rw [List.filter_cons_of_pos (by simp [hw, hb]), hrest, hnone, if_pos hb]
      rfl
    · rw [List.filter_cons_of_neg (by simp [hw, hb]), hrest, if_neg hb]

/-! ### Folds -/

/-- A fold that puts each new key behind the others has each key at its first occurrence. -/
theorem keys_foldl {σ : Type} (keysOf : σ → List α) {step : σ → γ → σ} {key : γ → α}
    (hstep : ∀ s c, keysOf (step s c) =
      if key c ∈ keysOf s then keysOf s else keysOf s ++ [key c])
    {start : σ} {l : List α} (h : keysOf start = l.eraseDups) (items : List γ) :
    keysOf (items.foldl step start) = (l ++ items.map key).eraseDups := by
  induction items generalizing start l with
  | nil => rw [List.map_nil, List.append_nil, List.foldl_nil, h]
  | cons c rest ih =>
    have hnext : keysOf (step start c) = (l ++ [key c]).eraseDups := by
      rw [hstep, h, eraseDups_concat]
      simp only [List.mem_eraseDups]
    rw [List.foldl_cons, ih hnext, List.map_cons, List.append_assoc, List.singleton_append]

section Insertions

variable {step : OrderedMap α β → γ → OrderedMap α β} {key : γ → α} {v : Option β → γ → β}
  {items : List γ}

/-- A fold that inserts under distinct keys puts those that are new behind the others. -/
theorem keys_foldl_insert
    (hstep : ∀ m c, step m c = m.insert (key c) (v (m.get? (key c)) c))
    (h : (items.map key).Nodup) {m : OrderedMap α β} (hm : m.keys.Nodup) :
    (items.foldl step m).keys = m.keys ++ (items.map key).filter (· ∉ m.keys) := by
  have hkeys : ∀ m c, (step m c).keys = if key c ∈ m.keys then m.keys else m.keys ++ [key c] := by
    intro m c
    rw [hstep, keys_insert]
  rw [keys_foldl keys hkeys (eraseDups_eq_self hm).symm, eraseDups_append_eq, eraseDups_eq_self hm,
    eraseDups_eq_self h]
  simp

/-- A fold that inserts under distinct keys changes the value of each of them once. -/
theorem get?_foldl (hstep : ∀ m c, step m c = m.insert (key c) (v (m.get? (key c)) c))
    (h : (items.map key).Nodup) (m : OrderedMap α β) (k : α) :
    (items.foldl step m).get? k =
      ((items.find? (key · = k)).map (v (m.get? k))).or (m.get? k) := by
  induction items generalizing m with
  | nil => rfl
  | cons c rest ih =>
    rw [List.map_cons, List.nodup_cons] at h
    rw [List.foldl_cons, ih h.2, hstep, get?_insert]
    by_cases hk : k = key c
    · -- The key comes once, so nothing behind `c` changes its value again.
      have hnone : rest.find? (key · = k) = none := by
        rw [List.find?_eq_none]
        intro other hother
        have hne : key other ≠ key c := fun heq => h.1 (heq ▸ List.mem_map_of_mem hother)
        simpa [hk] using hne
      rw [hnone, if_pos hk, List.find?_cons_of_pos (by simp [hk]), hk]
      rfl
    · rw [if_neg hk, List.find?_cons_of_neg (by simpa using Ne.symm hk)]

end Insertions

end Triage.OrderedMap
