import Triage.Proofs.Finding.Roundtrip
import Triage.Proofs.Json.Roundtrip

/-!
# Records in JSON

A record whose names are distinct is read back with the same names in the same order
(`reread_record`), and so a finding is read back as it was (`reread_toValue`).
-/

namespace Triage

namespace Value

/-- The entries of a record. -/
def recordEntries (fields : List (String × Value)) : List (Scalar × Value) :=
  fields.map fun (name, v) => (.text name, v)

theorem recordEntries_cons (name : String) (v : Value) (fields : List (String × Value)) :
    recordEntries ((name, v) :: fields) = (.text name, v) :: recordEntries fields := rfl

theorem putEntry_of_notMem {name : String} {fields : List (String × Value)}
    (h : name ∉ fields.map Prod.fst) (v : Value) :
    putEntry (.text name) v (recordEntries fields) = recordEntries (fields ++ [(name, v)]) := by
  induction fields with
  | nil => rfl
  | cons p fields ih =>
    obtain ⟨other, w⟩ := p
    rw [List.map_cons, List.mem_cons, not_or] at h
    have hother : (Scalar.text other).sameKey (.text name) = false := by
      rw [sameKey_text, decide_eq_false_iff_not]
      exact Ne.symm h.1
    simp only [List.cons_append, recordEntries_cons, putEntry, hother, Bool.false_eq_true, if_false,
      ih h.2]

/-- Entries with distinct names are put in one behind another. -/
theorem ofEntries_record {fields : List (String × Value)} (h : (fields.map Prod.fst).Nodup) :
    ofEntries (recordEntries fields) = record fields := by
  suffices hall : ∀ known : List (String × Value), ((known ++ fields).map Prod.fst).Nodup →
      (recordEntries fields).foldl (fun t p => putEntry p.1 p.2 t) (recordEntries known) =
        recordEntries (known ++ fields) from
    congrArg Value.table (hall [] h)
  clear h
  induction fields with
  | nil =>
    intro known _
    rw [List.append_nil]
    rfl
  | cons p fields ih =>
    obtain ⟨name, v⟩ := p
    intro known hknown
    have hnew : name ∉ known.map Prod.fst := by
      rw [List.map_append, List.map_cons] at hknown
      exact fun hmem => (List.nodup_append.mp hknown).2.2 name hmem name (List.mem_cons_self ..) rfl
    have hsplit : known ++ (name, v) :: fields = known ++ [(name, v)] ++ fields := by simp
    rw [hsplit] at hknown ⊢
    rw [recordEntries_cons, List.foldl_cons, putEntry_of_notMem hnew]
    exact ih _ hknown

end Value

namespace Json

theorem rereadItems_eq_map (items : List Value) : rereadItems items = items.map reread := by
  induction items with
  | nil => rfl
  | cons v items ih => rw [rereadItems, ih, List.map_cons]

theorem rereadMembers_eq_map (entries : List (Scalar × Value)) :
    rereadMembers entries = entries.map fun (k, v) => (k, reread v) := by
  induction entries with
  | nil => rfl
  | cons p entries ih => rw [rereadMembers, ih, List.map_cons]

theorem reread_list (items : List Value) : reread (.list items) = .list (items.map reread) := by
  rw [reread, rereadItems_eq_map]

/-- A record with distinct names is read back field by field. -/
theorem reread_record {fields : List (String × Value)} (h : (fields.map Prod.fst).Nodup) :
    reread (.record fields) = .record (fields.map fun (name, v) => (name, reread v)) := by
  have hnames : ((fields.map fun (name, v) => (name, reread v)).map Prod.fst).Nodup := by
    rw [List.map_map]
    exact h
  rw [← Value.ofEntries_record hnames, Value.record, reread, rereadMembers_eq_map, List.map_map,
    Value.recordEntries, List.map_map]
  rfl

theorem field?_reread_record {fields : List (String × Value)} (h : (fields.map Prod.fst).Nodup)
    {name : String} {v : Value} (hv : (Value.record fields).field? name = some v) :
    (reread (.record fields)).field? name = some (reread v) := by
  rw [reread_record h]
  clear h
  induction fields with
  | nil => exact absurd hv (by simp)
  | cons p fields ih =>
    obtain ⟨other, w⟩ := p
    rw [List.map_cons, Value.field?_record_cons]
    rw [Value.field?_record_cons] at hv
    by_cases hname : other = name
    · rw [if_pos hname] at hv ⊢
      rw [Option.some.inj hv]
    · rw [if_neg hname] at hv ⊢
      exact ih hv

theorem reread_text (s : String) : reread (.text s) = .text s := by
  rw [Value.text, reread]
  rfl

theorem reread_nat (n : ℕ) : reread (.nat n) = .nat n := by
  rw [Value.nat, Value.int, reread]
  rfl

/-- The document of a finding is read back as it was. -/
theorem reread_toValue (f : Finding) : reread f.toValue = f.toValue := by
  unfold Finding.toValue
  cases f.suggestedPatch with
  | none => cases f.confidence with
    | none =>
      rw [reread_record (by simp)]
      simp [reread_text, reread_nat]
    | some c =>
      rw [reread_record (by simp)]
      simp [reread_text, reread_nat]
  | some patch => cases f.confidence with
    | none =>
      rw [reread_record (by simp)]
      simp [reread_text, reread_nat]
    | some c =>
      rw [reread_record (by simp)]
      simp [reread_text, reread_nat]

/-- The documents of findings are read back as they were. -/
theorem reread_comments (findings : List Finding) :
    reread (.list (findings.map Finding.toValue)) = .list (findings.map Finding.toValue) := by
  rw [reread_list, List.map_map]
  exact congrArg Value.list (List.map_congr_left fun f _ => reread_toValue f)

end Json

end Triage
