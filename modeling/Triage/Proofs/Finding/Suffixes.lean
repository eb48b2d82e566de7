import Triage.Proofs.Finding.Numbering
import Mathlib.Data.List.Infix

/-!
# What repeated ids and keys become

The first finding with an id keeps it, and the `k`-th one gets `-k` behind it; with keys it is the
same, and one does not depend on the other (`suffixRepeats_names`). An id that looks like a numbered
one is counted as what it is. So findings stay as they are iff their ids differ and their keys
differ (`suffixRepeats_eq_self_iff`), and those at the front of a list do so whatever comes behind
them (`prefix_suffixRepeats_iff`).
-/

namespace Triage

/-! ### One column of values -/

/-- Whether a name is that of the value at a place of a list: the value itself where it comes for
the first time, and the value with `-k` behind it where it comes for the `k`-th time. -/
structure IsOccurrenceName (values : List String) (i : ℕ) (v name : String) : Prop where
  first : v ∉ values.take i → name = v
  later : ∀ k, 2 ≤ k → (values.take (i + 1)).count v = k → name = v ++ "-" ++ toString k

theorem isOccurrenceName_numbered {values : List String} {i : ℕ} {v : String}
    (h : values[i]? = some v) :
    IsOccurrenceName values i v (numbered v (values.countBefore v i)) := by
  have hcount : (values.take (i + 1)).count v = values.countBefore v i + 1 := by
    rw [List.take_add_one, h, List.count_append, List.countBefore_eq_count_take]
    simp
  constructor
  · intro hnew
    rw [List.countBefore_eq_count_take, List.count_eq_zero.mpr hnew, numbered_zero]
  · rintro k hk rfl
    have hne : values.countBefore v i ≠ 0 := by omega
    rw [numbered, if_neg hne, hcount]

/-- Values that stay as they are differ, since one that comes again would be numbered. -/
theorem nodup_of_renumber_eq_self {values : List String} (h : renumber values = values) :
    values.Nodup := by
  rw [List.Nodup, List.pairwise_iff_getElem]
  intro i j hi hj hij heq
  have hagain := countBefore_lt_of_lt hij hj heq
  have hj' : j < (renumber values).length := by rwa [length_renumber]
  have hsame : (renumber values)[j] = values[j] := by simp only [h]
  rw [getElem_renumber values j hj' hj] at hsame
  exact numbered_ne_self (by omega) _ hsame

/-! ### Findings -/

theorem suffixRepeats_eq_self_iff {findings : List Finding} :
    suffixRepeats findings = findings ↔
      (findings.map Finding.id).Nodup ∧ (findings.map Finding.key).Nodup := by
  constructor
  · intro h
    constructor
    · apply nodup_of_renumber_eq_self
      rw [← map_id_suffixRepeats, h]
    · apply nodup_of_renumber_eq_self
      rw [← map_key_suffixRepeats, h]
  · rintro ⟨hids, hkeys⟩
    exact suffixRepeats_eq_self hids hkeys

theorem prefix_suffixRepeats_iff {front findings : List Finding} (h : front <+: findings) :
    front <+: suffixRepeats findings ↔
      (front.map Finding.id).Nodup ∧ (front.map Finding.key).Nodup := by
  obtain ⟨back, rfl⟩ := h
  rw [List.prefix_iff_eq_take, take_suffixRepeats_append, eq_comm, suffixRepeats_eq_self_iff]

/-- Each finding stays at its place and keeps everything but its id and its key, which are named by
how often they came, apart from each other. So findings stay as they are iff their ids differ and
their keys differ, and so do those at the front of a list. -/
theorem suffixRepeats_names (findings : List Finding) :
    (suffixRepeats findings).length = findings.length ∧
    (∀ (i : ℕ) (f : Finding), findings[i]? = some f → ∃ id key,
      (suffixRepeats findings)[i]? = some { f with id := id, key := key } ∧
      IsOccurrenceName (findings.map Finding.id) i f.id id ∧
      IsOccurrenceName (findings.map Finding.key) i f.key key) ∧
    (suffixRepeats findings = findings ↔
      (findings.map Finding.id).Nodup ∧ (findings.map Finding.key).Nodup) ∧
    ∀ front, front <+: findings → (front <+: suffixRepeats findings ↔
      (front.map Finding.id).Nodup ∧ (front.map Finding.key).Nodup) := by
  refine ⟨length_suffixRepeats findings, ?_, suffixRepeats_eq_self_iff,
    fun _ => prefix_suffixRepeats_iff⟩
  intro i f hf
  obtain ⟨hi, rfl⟩ := List.getElem?_eq_some_iff.mp hf
  have hi' : i < (suffixRepeats findings).length := by rwa [length_suffixRepeats]
  refine ⟨_, _, ?_, isOccurrenceName_numbered ?_, isOccurrenceName_numbered ?_⟩
  · rw [List.getElem?_eq_getElem hi', getElem_suffixRepeats findings i hi' hi]
  · rw [List.getElem?_map, hf, Option.map_some]
  · rw [List.getElem?_map, hf, Option.map_some]

/-- A remark with an id and a key of its own. -/
def keyedRemark (id key : String) : Finding :=
  { remark id "one" 1 with key := key }

/-- Four remarks, the first two of which differ. The second one came with a number. -/
def pairedRemarks : List Finding :=
  [keyedRemark "a" "k", keyedRemark "a-2" "l", keyedRemark "a" "l", keyedRemark "b" "k"]

/-- The first two stay as they are, the third one gets numbers behind both, and the last one behind
its key only. -/
theorem suffixRepeats_names_pairedRemarks :
    [keyedRemark "a" "k", keyedRemark "a-2" "l"] <+: suffixRepeats pairedRemarks ∧
      (suffixRepeats pairedRemarks)[2]? = some (keyedRemark "a-2" "l-2") ∧
      (suffixRepeats pairedRemarks)[3]? = some (keyedRemark "b" "k-2") := by
  obtain ⟨-, hnames, -, hfront⟩ := suffixRepeats_names pairedRemarks
  refine ⟨?_, ?_, ?_⟩
  · exact (hfront _ ⟨[keyedRemark "a" "l", keyedRemark "b" "k"], rfl⟩).mpr (by decide)
  · obtain ⟨id, key, hget, hid, hkey⟩ := hnames 2 (keyedRemark "a" "l") rfl
    obtain rfl := hid.later 2 le_rfl (by decide)
    obtain rfl := hkey.later 2 le_rfl (by decide)
    exact hget
  · obtain ⟨id, key, hget, hid, hkey⟩ := hnames 3 (keyedRemark "b" "k") rfl
    obtain rfl := hid.first (by decide)
    obtain rfl := hkey.later 2 le_rfl (by decide)
    exact hget

end Triage
