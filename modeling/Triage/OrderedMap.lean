/-!
# Ordered maps

Finite maps that remember the order in which their keys came: a new value for a known key takes the
place of the old one, a new key goes to the end. `get?_insert` and `keys_insert` say what an
insertion does to the look-up and to the keys, and `nodup_keys_ofList` that no key comes twice.
-/

namespace Triage

/-- Pairs of keys and values in the order of the keys' first insertion. -/
structure OrderedMap (α β : Type) where
  entries : List (α × β)
  deriving DecidableEq, Repr, Inhabited

namespace OrderedMap

variable {α β : Type} [DecidableEq α]

/-- The map without keys. -/
def empty : OrderedMap α β := ⟨[]⟩

/-- The value of a key in a list of pairs. -/
def find (k : α) : List (α × β) → Option β
  | [] => none
  | (a, b) :: rest => if a = k then some b else find k rest

/-- The list of pairs with a value for a key: in the place of its old value, or at the end. -/
def put (k : α) (v : β) : List (α × β) → List (α × β)
  | [] => [(k, v)]
  | (a, b) :: rest => if a = k then (a, v) :: rest else (a, b) :: put k v rest

theorem find_put (k a : α) (v : β) (l : List (α × β)) :
    find a (put k v l) = if a = k then some v else find a l := by
  induction l with
  | nil =>
    simp only [put, find]
    by_cases h : a = k
    · rw [if_pos h, if_pos h.symm]
    · rw [if_neg h, if_neg (Ne.symm h)]
  | cons p rest ih =>
    obtain ⟨b, w⟩ := p
    by_cases hb : b = k
    · -- The old entry of `k` is replaced; the look-up of another key passes over it.
      subst hb
      by_cases h : a = b
      · simp [put, find, h]
      · simp [put, find, h, Ne.symm h]
    · simp only [put, if_neg hb, find, ih]
      by_cases h : b = a
      · rw [if_pos h, if_pos h, if_neg (h ▸ hb)]
      · rw [if_neg h, if_neg h]

theorem map_fst_put (k : α) (v : β) (l : List (α × β)) :
    (put k v l).map Prod.fst =
      if k ∈ l.map Prod.fst then l.map Prod.fst else l.map Prod.fst ++ [k] := by
  induction l with
  | nil => simp [put]
  | cons p rest ih =>
    obtain ⟨b, w⟩ := p
    by_cases hb : b = k
    · simp [put, hb]
    · -- The head is another key, so `k` is a key of the list iff it is one of the rest.
      simp only [put, if_neg hb, List.map_cons, ih, List.mem_cons, Ne.symm hb, false_or]
      split <;> rfl

theorem find_eq_none_iff (k : α) (l : List (α × β)) :
    find k l = none ↔ k ∉ l.map Prod.fst := by
  induction l with
  | nil => simp [find]
  | cons p rest ih =>
    obtain ⟨b, w⟩ := p
    rw [find, List.map_cons, List.mem_cons, not_or, ← ih]
    by_cases hb : b = k
    · simp [hb]
    · simp [hb, Ne.symm hb]

theorem put_eq_append {k : α} {l : List (α × β)} (h : find k l = none) (v : β) :
    put k v l = l ++ [(k, v)] := by
  induction l with
  | nil => rfl
  | cons p rest ih =>
    obtain ⟨b, w⟩ := p
    rw [find] at h
    by_cases hb : b = k
    · rw [if_pos hb] at h
      exact absurd h (by simp)
    · rw [if_neg hb] at h
      rw [put, if_neg hb, ih h, List.cons_append]

theorem length_put {k : α} {l : List (α × β)} (h : (find k l).isSome = true) (v : β) :
    (put k v l).length = l.length := by
  induction l with
  | nil => exact absurd h (by simp [find])
  | cons p rest ih =>
    obtain ⟨b, w⟩ := p
    rw [find] at h
    by_cases hb : b = k
    · rw [put, if_pos hb, List.length_cons, List.length_cons]
    · rw [if_neg hb] at h
      rw [put, if_neg hb, List.length_cons, List.length_cons, ih h]

theorem mem_put {k : α} {v : β} {l : List (α × β)} {p : α × β} (h : p ∈ put k v l) :
    p = (k, v) ∨ p ∈ l := by
  induction l with
  | nil => exact Or.inl (List.mem_singleton.mp h)
  | cons q rest ih =>
    obtain ⟨b, w⟩ := q
    rw [put] at h
    by_cases hb : b = k
    · rw [if_pos hb, hb] at h
      rcases List.mem_cons.mp h with h | h
      · exact Or.inl h
      · exact Or.inr (List.mem_cons_of_mem _ h)
    · rw [if_neg hb] at h
      rcases List.mem_cons.mp h with h | h
      · exact Or.inr (h ▸ List.mem_cons_self ..)
      · exact (ih h).imp_right (List.mem_cons_of_mem _)

/-- The value of a key. -/
def get? (m : OrderedMap α β) (k : α) : Option β :=
  find k m.entries

/-- Gives a key a value. -/
def insert (m : OrderedMap α β) (k : α) (v : β) : OrderedMap α β :=
  ⟨put k v m.entries⟩

/-- Whether the map has a value for a key. -/
def contains (m : OrderedMap α β) (k : α) : Bool :=
  (m.get? k).isSome

omit [DecidableEq α] in
/-- The keys in the order of their first insertion. -/
def keys (m : OrderedMap α β) : List α :=
  m.entries.map Prod.fst

omit [DecidableEq α] in
/-- The values in the order of their keys. -/
def values (m : OrderedMap α β) : List β :=
  m.entries.map Prod.snd

/-- Inserts pairs one after another. -/
def ofList (pairs : List (α × β)) : OrderedMap α β :=
  pairs.foldl (fun m p => m.insert p.1 p.2) empty

/-! ### Laws -/

@[simp]
theorem get?_empty (a : α) : (empty : OrderedMap α β).get? a = none := rfl

/-- A look-up sees the last insertion of its key. -/
theorem get?_insert (m : OrderedMap α β) (k a : α) (v : β) :
    (m.insert k v).get? a = if a = k then some v else m.get? a :=
  find_put k a v m.entries

/-- A known key keeps its place, and a new one goes to the end. -/
theorem keys_insert (m : OrderedMap α β) (k : α) (v : β) :
    (m.insert k v).keys = if k ∈ m.keys then m.keys else m.keys ++ [k] :=
  map_fst_put k v m.entries

/-- No insertion makes a key come twice. -/
theorem nodup_keys_insert {m : OrderedMap α β} (h : m.keys.Nodup) (k : α) (v : β) :
    (m.insert k v).keys.Nodup := by
  rw [keys_insert]
  by_cases hk : k ∈ m.keys
  · rw [if_pos hk]
    exact h
  · rw [if_neg hk, List.nodup_append]
    refine ⟨h, by simp, fun a ha b hb hab => hk ?_⟩
    rw [← List.mem_singleton.1 hb, ← hab]
    exact ha

theorem nodup_keys_foldl_insert (pairs : List (α × β)) {m : OrderedMap α β} (h : m.keys.Nodup) :
    (pairs.foldl (fun m p => m.insert p.1 p.2) m).keys.Nodup := by
  induction pairs generalizing m with
  | nil => exact h
  | cons p rest ih => exact ih (nodup_keys_insert h p.1 p.2)

/-- A map made of pairs has every key once. -/
theorem nodup_keys_ofList (pairs : List (α × β)) : (ofList pairs : OrderedMap α β).keys.Nodup :=
  nodup_keys_foldl_insert pairs List.nodup_nil

end OrderedMap

end Triage
