import Triage.Finding.Identity
import Mathlib.Data.List.Forall2
import Mathlib.Data.List.Nodup

/-!
# Numbered ids and keys

`suffixRepeats` numbers ids and keys apart from each other, each by how often the value came before
(`getElem_suffixRepeats`). A number is told from the value that it follows (`numbered_injective`),
so two numbered values never meet; a numbered value can only meet one that came with that suffix
(`nodup_renumber_iff`).
-/

namespace Triage

/-! ### Tallies -/

@[simp]
theorem Tally.count_empty (s : String) : Tally.count .empty s = 0 := rfl

theorem Tally.count_meet (t : Tally) (s a : String) :
    (t.meet s).count a = t.count a + if s = a then 1 else 0 := by
  unfold Tally.count Tally.meet
  rw [OrderedMap.get?_insert]
  by_cases h : a = s
  · subst h
    simp [Tally.count]
  · rw [if_neg h, if_neg (Ne.symm h), Nat.add_zero]

/-! ### Numbered values -/

@[simp]
theorem numbered_zero (s : String) : numbered s 0 = s := rfl

theorem toList_numbered {k : ℕ} (hk : 0 < k) (s : String) :
    (numbered s k).toList = s.toList ++ '-' :: Nat.toDigits 10 (k + 1) := by
  rw [numbered, if_neg (Nat.ne_of_gt hk)]
  show (s ++ "-" ++ Nat.repr (k + 1)).toList = _
  rw [String.toList_append, String.toList_append, Nat.toList_repr]
  simp

theorem not_hyphen_mem_toDigits (n : ℕ) : '-' ∉ Nat.toDigits 10 n := by
  intro h
  have := Nat.isDigit_of_mem_toDigits (by decide) (by decide) h
  exact absurd this (by decide)

theorem toDigits_ten_injective : Function.Injective (Nat.toDigits 10) := by
  intro m n h
  rw [← Nat.ofDigitChars_ten_toDigits (n := m), h, Nat.ofDigitChars_ten_toDigits]

/-- What stands behind the last occurrence of a separator, and what stands in front of it, is told
by the whole. -/
theorem append_cons_inj_of_notMem {α : Type} {a : α} :
    ∀ {xs ys ds es : List α}, a ∉ ds → a ∉ es → xs ++ a :: ds = ys ++ a :: es → xs = ys ∧ ds = es
  | [], [], ds, es, _, _, h => by
    exact ⟨rfl, (List.cons.inj h).2⟩
  | [], y :: ys, ds, es, hd, _, h => by
    have htail := (List.cons.inj h).2
    exact absurd (htail ▸ List.mem_append_right _ (List.mem_cons_self ..)) hd
  | x :: xs, [], ds, es, _, he, h => by
    have htail := (List.cons.inj h).2
    exact absurd (htail ▸ List.mem_append_right _ (List.mem_cons_self ..)) he
  | x :: xs, y :: ys, ds, es, hd, he, h => by
    obtain ⟨hxy, hrest⟩ := List.cons.inj h
    obtain ⟨hxs, hds⟩ := append_cons_inj_of_notMem hd he hrest
    exact ⟨by rw [hxy, hxs], hds⟩

/-- A value and its number are told by the numbered value. -/
theorem numbered_injective {s t : String} {j k : ℕ} (hj : 0 < j) (hk : 0 < k)
    (h : numbered s j = numbered t k) : s = t ∧ j = k := by
  have hlist := congrArg String.toList h
  rw [toList_numbered hj, toList_numbered hk] at hlist
  obtain ⟨hs, hd⟩ := append_cons_inj_of_notMem (not_hyphen_mem_toDigits _)
    (not_hyphen_mem_toDigits _) hlist
  refine ⟨String.toList_injective hs, ?_⟩
  have := toDigits_ten_injective hd
  omega

theorem numbered_ne_self {k : ℕ} (hk : 0 < k) (s : String) : numbered s k ≠ s := by
  intro h
  have hlen := congrArg (fun t => t.toList.length) h
  simp only [toList_numbered hk, List.length_append, List.length_cons] at hlen
  omega

/-! ### One column of values -/

/-- Numbers the repeated values of a list, after those already met. -/
def renumberFrom (t : Tally) : List String → List String
  | [] => []
  | s :: rest => numbered s (t.count s) :: renumberFrom (t.meet s) rest

/-- Numbers the repeated values of a list. -/
def renumber (values : List String) : List String :=
  renumberFrom .empty values

@[simp]
theorem length_renumberFrom (t : Tally) (values : List String) :
    (renumberFrom t values).length = values.length := by
  induction values generalizing t with
  | nil => rfl
  | cons s rest ih => rw [renumberFrom, List.length_cons, List.length_cons, ih]

@[simp]
theorem length_renumber (values : List String) : (renumber values).length = values.length :=
  length_renumberFrom _ _

theorem getElem_renumberFrom (t : Tally) (values : List String) (i : ℕ)
    (h : i < (renumberFrom t values).length) (h' : i < values.length) :
    (renumberFrom t values)[i] =
      numbered values[i] (t.count values[i] + values.countBefore values[i] i) := by
  induction values generalizing t i with
  | nil => exact absurd h' (Nat.not_lt_zero i)
  | cons s rest ih =>
    cases i with
    | zero => simp [renumberFrom]
    | succ i =>
      simp only [renumberFrom, List.getElem_cons_succ, List.countBefore_cons_succ]
      rw [ih (t.meet s) i (by simpa using h') (by simpa using h'), Tally.count_meet]
      congr 1
      simp only [beq_iff_eq]
      omega

/-- A value is numbered by how often it came before. -/
theorem getElem_renumber (values : List String) (i : ℕ) (h : i < (renumber values).length)
    (h' : i < values.length) :
    (renumber values)[i] = numbered values[i] (values.countBefore values[i] i) := by
  have := getElem_renumberFrom .empty values i h h'
  rwa [Tally.count_empty, Nat.zero_add] at this

/-- Whether no value of a list reads like one that comes `k` times or more, with `-k` behind it. -/
def IsUnambiguous (values : List String) : Prop :=
  ∀ s k, 2 ≤ k → k ≤ values.count s → s ++ "-" ++ toString k ∉ values

theorem isUnambiguous_iff {values : List String} :
    IsUnambiguous values ↔ ∀ s k, 0 < k → k < values.count s → numbered s k ∉ values := by
  unfold IsUnambiguous numbered
  constructor
  · intro h s k hk hcount
    rw [if_neg (Nat.ne_of_gt hk)]
    exact h s (k + 1) (by omega) hcount
  · intro h s k hk hcount
    obtain ⟨j, rfl⟩ : ∃ j, k = j + 1 := ⟨k - 1, by omega⟩
    have hj : 0 < j := by omega
    have hmem := h s j hj hcount
    rwa [if_neg (Nat.ne_of_gt hj)] at hmem

/-- A value that comes again is not the first of its kind. -/
theorem countBefore_lt_of_lt {values : List String} {i j : ℕ} (hij : i < j)
    (hj : j < values.length) (h : values[i] = values[j]) :
    values.countBefore values[i] i < values.countBefore values[j] j := by
  rw [← h, List.countBefore_eq_count_take, List.countBefore_eq_count_take]
  have hsplit : values.take j = values.take i ++ (values.take j).drop i := by
    conv_lhs => rw [← List.take_append_drop i (values.take j)]
    rw [List.take_take, Nat.min_eq_left (Nat.le_of_lt hij)]
  have hmem : values[i] ∈ (values.take j).drop i := by
    rw [List.mem_iff_getElem]
    refine ⟨0, by simp; omega, ?_⟩
    simp
  rw [hsplit, List.count_append]
  have := List.count_pos_iff.mpr hmem
  omega

/-- Numbering makes values distinct unless one of them mimics a numbered one. -/
theorem nodup_renumber_iff (values : List String) :
    (renumber values).Nodup ↔ IsUnambiguous values := by
  rw [isUnambiguous_iff]
  constructor
  · intro hnd s k hk hcount hmem
    -- The `k`-th repeat of `s` and the value that looks like it stand at different places.
    have hi : values.idxOfNth s k < values.length := List.idxOfNth_lt_length_of_lt_count hcount
    have hj : values.idxOf (numbered s k) < values.length := List.idxOf_lt_length_of_mem hmem
    have hvi : values[values.idxOfNth s k] = s := List.getElem_idxOfNth_eq
    have hvj : values[values.idxOf (numbered s k)] = numbered s k := List.getElem_idxOf hj
    have hi' : values.idxOfNth s k < (renumber values).length := by rwa [length_renumber]
    have hj' : values.idxOf (numbered s k) < (renumber values).length := by rwa [length_renumber]
    have hri : (renumber values)[values.idxOfNth s k] = numbered s k := by
      rw [getElem_renumber values _ hi' hi, hvi,
        List.countBefore_idxOfNth_of_lt_count hcount]
    have hrj : (renumber values)[values.idxOf (numbered s k)] = numbered s k := by
      rw [getElem_renumber values _ hj' hj, hvj, ← List.idxOfNth_zero,
        List.countBefore_idxOfNth_of_lt_count (List.count_pos_iff.mpr hmem), numbered_zero]
    have hplace := (List.Nodup.getElem_inj_iff hnd).mp (hri.trans hrj.symm)
    have hsame : values[values.idxOfNth s k] = values[values.idxOf (numbered s k)] := by
      simp only [hplace]
    rw [hvi, hvj] at hsame
    exact numbered_ne_self hk s hsame.symm
  · intro h
    rw [List.Nodup, List.pairwise_iff_getElem]
    intro i j hi hj hij heq
    have hi' : i < values.length := by simpa using hi
    have hj' : j < values.length := by simpa using hj
    rw [getElem_renumber values i hi hi', getElem_renumber values j hj hj'] at heq
    have hci : values.countBefore values[i] i < values.count values[i] :=
      List.countBefore_lt_count_getElem
    have hcj : values.countBefore values[j] j < values.count values[j] :=
      List.countBefore_lt_count_getElem
    rcases Nat.eq_zero_or_pos (values.countBefore values[i] i) with hzi | hpi <;>
      rcases Nat.eq_zero_or_pos (values.countBefore values[j] j) with hzj | hpj
    · -- Both are first occurrences, of one value at two places.
      rw [hzi, hzj, numbered_zero, numbered_zero] at heq
      have := countBefore_lt_of_lt hij hj' heq
      omega
    · rw [hzi, numbered_zero] at heq
      exact h _ _ hpj hcj (heq ▸ List.getElem_mem hi')
    · rw [hzj, numbered_zero] at heq
      exact h _ _ hpi hci (heq ▸ List.getElem_mem hj')
    · obtain ⟨hval, hnum⟩ := numbered_injective hpi hpj heq
      have := countBefore_lt_of_lt hij hj' hval
      omega

/-- Among distinct values, none came before. -/
theorem countBefore_eq_zero {values : List String} (h : values.Nodup) {i : ℕ}
    (hi : i < values.length) : values.countBefore values[i] i = 0 := by
  have hlt : values.countBefore values[i] i < values.count values[i] :=
    List.countBefore_lt_count_getElem
  rw [List.count_eq_one_of_mem h (List.getElem_mem hi)] at hlt
  omega

/-! ### Findings -/

@[simp]
theorem length_suffixFrom (ids keys : Tally) (findings : List Finding) :
    (suffixFrom ids keys findings).length = findings.length := by
  induction findings generalizing ids keys with
  | nil => rfl
  | cons f rest ih => rw [suffixFrom, List.length_cons, List.length_cons, ih]

@[simp]
theorem length_suffixRepeats (findings : List Finding) :
    (suffixRepeats findings).length = findings.length :=
  length_suffixFrom _ _ _

theorem map_id_suffixFrom (ids keys : Tally) (findings : List Finding) :
    (suffixFrom ids keys findings).map Finding.id =
      renumberFrom ids (findings.map Finding.id) := by
  induction findings generalizing ids keys with
  | nil => rfl
  | cons f rest ih => simp only [suffixFrom, List.map_cons, renumberFrom, ih]

theorem map_key_suffixFrom (ids keys : Tally) (findings : List Finding) :
    (suffixFrom ids keys findings).map Finding.key =
      renumberFrom keys (findings.map Finding.key) := by
  induction findings generalizing ids keys with
  | nil => rfl
  | cons f rest ih => simp only [suffixFrom, List.map_cons, renumberFrom, ih]

theorem map_id_suffixRepeats (findings : List Finding) :
    (suffixRepeats findings).map Finding.id = renumber (findings.map Finding.id) :=
  map_id_suffixFrom _ _ _

theorem map_key_suffixRepeats (findings : List Finding) :
    (suffixRepeats findings).map Finding.key = renumber (findings.map Finding.key) :=
  map_key_suffixFrom _ _ _

theorem getElem_suffixFrom (ids keys : Tally) (findings : List Finding) (i : ℕ)
    (h : i < (suffixFrom ids keys findings).length) (h' : i < findings.length) :
    (suffixFrom ids keys findings)[i] =
      { findings[i] with
        id := (suffixFrom ids keys findings)[i].id
        key := (suffixFrom ids keys findings)[i].key } := by
  induction findings generalizing ids keys i with
  | nil => exact absurd h' (Nat.not_lt_zero i)
  | cons f rest ih =>
    cases i with
    | zero => rfl
    | succ i =>
      simp only [suffixFrom, List.getElem_cons_succ]
      exact ih _ _ i (by simpa using h') (by simpa using h')

/-- A finding keeps everything but its id and its key, which are numbered by how often they came
before. -/
theorem getElem_suffixRepeats (findings : List Finding) (i : ℕ)
    (h : i < (suffixRepeats findings).length) (h' : i < findings.length) :
    (suffixRepeats findings)[i] =
      { findings[i] with
        id := numbered findings[i].id
          ((findings.map Finding.id).countBefore findings[i].id i)
        key := numbered findings[i].key
          ((findings.map Finding.key).countBefore findings[i].key i) } := by
  have hids : i < (renumber (findings.map Finding.id)).length := by
    rwa [length_renumber, List.length_map]
  have hkeys : i < (renumber (findings.map Finding.key)).length := by
    rwa [length_renumber, List.length_map]
  have hid : (suffixRepeats findings)[i].id = (renumber (findings.map Finding.id))[i] := by
    simp only [← map_id_suffixRepeats, List.getElem_map]
  have hkey : (suffixRepeats findings)[i].key = (renumber (findings.map Finding.key))[i] := by
    simp only [← map_key_suffixRepeats, List.getElem_map]
  rw [getElem_renumber _ i hids (by rwa [List.length_map])] at hid
  rw [getElem_renumber _ i hkeys (by rwa [List.length_map])] at hkey
  simp only [List.getElem_map] at hid hkey
  rw [← hid, ← hkey]
  exact getElem_suffixFrom .empty .empty findings i h h'

/-- Whether a finding is another one with numbers behind its id and its key. -/
def Finding.IsNumbered (f g : Finding) : Prop :=
  ∃ j k, g = { f with id := numbered f.id j, key := numbered f.key k }

theorem forall₂_suffixRepeats (findings : List Finding) :
    List.Forall₂ Finding.IsNumbered findings (suffixRepeats findings) := by
  rw [List.forall₂_iff_get]
  refine ⟨(length_suffixRepeats findings).symm, ?_⟩
  intro i h h'
  exact ⟨_, _, getElem_suffixRepeats findings i h' h⟩

/-- Findings with distinct ids and distinct keys stay as they are. -/
theorem suffixRepeats_eq_self {findings : List Finding} (hids : (findings.map Finding.id).Nodup)
    (hkeys : (findings.map Finding.key).Nodup) : suffixRepeats findings = findings := by
  apply List.ext_getElem (length_suffixRepeats findings)
  intro i h h'
  have hid := countBefore_eq_zero hids (by rwa [List.length_map] : i < _)
  have hkey := countBefore_eq_zero hkeys (by rwa [List.length_map] : i < _)
  rw [List.getElem_map] at hid hkey
  rw [getElem_suffixRepeats findings i h h', hid, hkey, numbered_zero, numbered_zero]

theorem suffixFrom_append (ids keys : Tally) (front back : List Finding) :
    suffixFrom ids keys (front ++ back) =
      suffixFrom ids keys front ++
        suffixFrom ((front.map Finding.id).foldl Tally.meet ids)
          ((front.map Finding.key).foldl Tally.meet keys) back := by
  induction front generalizing ids keys with
  | nil => rfl
  | cons f rest ih => simp only [List.cons_append, suffixFrom, ih, List.map_cons, List.foldl_cons]

/-- What comes behind some findings does not change their numbers. -/
theorem take_suffixRepeats_append (front back : List Finding) :
    (suffixRepeats (front ++ back)).take front.length = suffixRepeats front := by
  unfold suffixRepeats
  rw [suffixFrom_append]
  exact List.take_left' (length_suffixFrom _ _ front)

/-- A finding apart from its id and its key. -/
def Finding.anonymous (f : Finding) : Finding :=
  { f with id := "", key := "" }

/-- Numbering changes nothing but ids and keys. -/
theorem map_anonymous_suffixRepeats (findings : List Finding) :
    (suffixRepeats findings).map Finding.anonymous = findings.map Finding.anonymous := by
  apply List.ext_getElem (by simp)
  intro i h h'
  rw [List.length_map] at h h'
  rw [List.getElem_map, List.getElem_map, getElem_suffixRepeats findings i h h']
  rfl

/-- A remark on one line of a file, with an id and a key. -/
def remark (identity title : String) (line : ℕ) : Finding where
  id := identity
  key := identity
  path := "src/a.py"
  side := .right
  line := line
  severity := .important
  category := .bug
  title := title
  body := "The value may be null here"
  evidence := "line two reads it"
  suggestedPatch := none
  commentType := .inline
  confidence := none

end Triage
