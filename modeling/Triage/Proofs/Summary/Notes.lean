import Triage.Proofs.OrderedMap
import Triage.Summary.Merge
import Mathlib.Data.Option.Basic

/-!
# What notes say of a file

Notes are told apart by the file that they are about. `together` is what some notes on one file say
as one; combining notes is associative, so they can be put together in groups
(`together_append`). Of the notes on a file, a merge puts together the last one of the base and all
of the supplement (`get?_noteMap`), and lists the files in the order in which they come up
(`keys_noteMap`).
-/

namespace Triage

/-! ### Risks -/

theorem Risk.higher_assoc (a b c : Risk) :
    (a.higher b).higher c = a.higher (b.higher c) := by
  cases a <;> cases b <;> cases c <;> rfl

theorem Risk.higher_self (a : Risk) : a.higher a = a := by
  cases a <;> rfl

instance : Std.Associative Risk.higher := ⟨Risk.higher_assoc⟩

instance : Std.IdempotentOp Risk.higher := ⟨Risk.higher_self⟩

theorem higherRisk_eq_merge (a b : Option Risk) : higherRisk a b = a.merge Risk.higher b := by
  cases a <;> cases b <;> rfl

theorem higherRisk_assoc (a b c : Option Risk) :
    higherRisk (higherRisk a b) c = higherRisk a (higherRisk b c) := by
  simp only [higherRisk_eq_merge]
  exact Std.Associative.assoc a b c

theorem higherRisk_self (a : Option Risk) : higherRisk a a = a := by
  rw [higherRisk_eq_merge]
  exact Std.IdempotentOp.idempotent a

/-- The place of a risk that may be missing; a missing one is below all others. -/
def riskLevel (r : Option Risk) : ℕ :=
  (r.map Risk.rank).getD 0

/-- The higher of two risks is one of them, and neither is above it. -/
theorem higherRisk_spec (a b : Option Risk) :
    (higherRisk a b = a ∨ higherRisk a b = b) ∧
      riskLevel a ≤ riskLevel (higherRisk a b) ∧ riskLevel b ≤ riskLevel (higherRisk a b) := by
  cases a with
  | none => exact ⟨Or.inr rfl, Nat.zero_le _, Nat.le_refl _⟩
  | some a =>
    cases b with
    | none => exact ⟨Or.inl rfl, Nat.le_refl _, Nat.zero_le _⟩
    | some b => cases a <;> cases b <;> decide

/-! ### Notes on one file -/

/-- The longer of two texts, and the first of two that are equally long. -/
def longer (s t : String) : String :=
  if t.length ≤ s.length then s else t

theorem longer_assoc (s t u : String) : longer (longer s t) u = longer s (longer t u) := by
  unfold longer
  by_cases hst : t.length ≤ s.length
  · by_cases htu : u.length ≤ t.length
    · rw [if_pos hst, if_pos htu, if_pos hst, if_pos (Nat.le_trans htu hst)]
    · rw [if_pos hst, if_neg htu]
  · by_cases htu : u.length ≤ t.length
    · rw [if_neg hst, if_pos htu, if_neg hst]
    · rw [if_neg hst, if_neg htu, if_neg (by omega)]

theorem longer_self (s : String) : longer s s = s := by
  rw [longer, if_pos (Nat.le_refl _)]

/-- The longer text is one of two, and neither is longer. -/
theorem longer_spec (s t : String) :
    (longer s t = s ∨ longer s t = t) ∧ s.length ≤ (longer s t).length ∧
      t.length ≤ (longer s t).length := by
  unfold longer
  split_ifs with h
  · exact ⟨Or.inl rfl, Nat.le_refl _, h⟩
  · exact ⟨Or.inr rfl, Nat.le_of_not_le h, Nat.le_refl _⟩

namespace FileNote

/-- The file that a note is about. -/
def file (n : FileNote) : String :=
  Path.relative n.path

theorem combine_eq (a b : FileNote) :
    a.combine b = ⟨a.path, longer a.summary b.summary, higherRisk a.risk b.risk⟩ := rfl

theorem combine_assoc (a b c : FileNote) : (a.combine b).combine c = a.combine (b.combine c) := by
  simp only [combine_eq, longer_assoc, higherRisk_assoc]

theorem combine_self (a : FileNote) : a.combine a = a := by
  rw [combine_eq, longer_self, higherRisk_self]

instance : Std.Associative combine := ⟨combine_assoc⟩

instance : Std.IdempotentOp combine := ⟨combine_self⟩

end FileNote

theorem merge_combine_assoc (a b c : Option FileNote) :
    (a.merge FileNote.combine b).merge FileNote.combine c =
      a.merge FileNote.combine (b.merge FileNote.combine c) :=
  Std.Associative.assoc a b c

/-- What notes on one file say together, if there are any. -/
def together (notes : List FileNote) : Option FileNote :=
  notes.foldl (fun all n => all.merge FileNote.combine (some n)) none

theorem merge_together (start : Option FileNote) (notes : List FileNote) :
    notes.foldl (fun all n => all.merge FileNote.combine (some n)) start =
      start.merge FileNote.combine (together notes) := by
  induction notes generalizing start with
  | nil => simp [together]
  | cons n rest ih =>
    rw [together, List.foldl_cons, List.foldl_cons, ih, ih (none.merge _ _),
      Option.merge_none_left, merge_combine_assoc]

/-- Notes can be put together in groups. -/
theorem together_append (notes more : List FileNote) :
    together (notes ++ more) = (together notes).merge FileNote.combine (together more) := by
  rw [together, List.foldl_append, merge_together]
  rfl

theorem together_cons (n : FileNote) (notes : List FileNote) :
    together (n :: notes) = (some n).merge FileNote.combine (together notes) :=
  together_append [n] notes

theorem together_toList (n : Option FileNote) : together n.toList = n := by
  cases n with
  | none => rfl
  | some n => rfl

/-- The notes on a file. -/
def notesOn (file : String) (notes : List FileNote) : List FileNote :=
  notes.filter fun n => n.file = file

theorem notesOn_cons (file : String) (n : FileNote) (notes : List FileNote) :
    notesOn file (n :: notes) = if n.file = file then n :: notesOn file notes
      else notesOn file notes := by
  rw [notesOn, List.filter_cons]
  simp only [decide_eq_true_eq]
  rfl

theorem mem_notesOn {file : String} {n : FileNote} {notes : List FileNote} :
    n ∈ notesOn file notes ↔ n ∈ notes ∧ n.file = file := by
  rw [notesOn, List.mem_filter, decide_eq_true_iff]

/-- A list that notes no file twice has one note on a file at most. -/
theorem notesOn_eq_toList {notes : List FileNote} (h : (notes.map FileNote.file).Nodup)
    (file : String) : notesOn file notes = (notesOn file notes).getLast?.toList := by
  have hnodup : ((notesOn file notes).map FileNote.file).Nodup :=
    h.sublist (List.filter_sublist.map _)
  match hon : notesOn file notes with
  | [] => rfl
  | [n] => rfl
  | n :: m :: rest =>
    -- Two notes on the file would make it come twice.
    have hn : n.file = file := (mem_notesOn.mp (hon ▸ List.mem_cons_self)).2
    have hm : m.file = file :=
      (mem_notesOn.mp (hon ▸ List.mem_cons_of_mem _ List.mem_cons_self)).2
    rw [hon] at hnodup
    simp [hn, hm] at hnodup

/-! ### The notes of two summaries -/

namespace NoteMap

variable {m : NoteMap}

theorem get?_replace (m : NoteMap) (n : FileNote) (file : String) :
    (m.replace n).get? file = if n.file = file then some n else m.get? file := by
  rw [replace, ← FileNote.file, OrderedMap.get?_insert]
  by_cases h : n.file = file
  · rw [if_pos h, if_pos h.symm]
  · rw [if_neg h, if_neg (Ne.symm h)]

theorem absorb_eq (m : NoteMap) (n : FileNote) :
    m.absorb n = m.insert n.file (((m.get? n.file).map (·.combine n)).getD n) := rfl

theorem get?_absorb (m : NoteMap) (n : FileNote) (file : String) :
    (m.absorb n).get? file =
      if n.file = file then (m.get? file).merge FileNote.combine (some n) else m.get? file := by
  rw [absorb_eq, OrderedMap.get?_insert]
  by_cases h : n.file = file
  · rw [if_pos h, if_pos h.symm, h]
    cases m.get? file with
    | none => rfl
    | some k => rfl
  · rw [if_neg h, if_neg (Ne.symm h)]

/-- Of notes that replace each other, the last one on a file is found. -/
theorem get?_foldl_replace (m : NoteMap) (notes : List FileNote) (file : String) :
    (notes.foldl replace m).get? file = (notesOn file notes).getLast?.or (m.get? file) := by
  induction notes generalizing m with
  | nil => rfl
  | cons n rest ih =>
    rw [List.foldl_cons, ih, get?_replace, notesOn_cons]
    split_ifs with h
    · rw [List.getLast?_cons]
      cases (notesOn file rest).getLast? with
      | none => rfl
      | some k => rfl
    · rfl

/-- Notes that are absorbed are put together with what was found before. -/
theorem get?_foldl_absorb (m : NoteMap) (notes : List FileNote) (file : String) :
    (notes.foldl absorb m).get? file =
      (m.get? file).merge FileNote.combine (together (notesOn file notes)) := by
  induction notes generalizing m with
  | nil => simp [notesOn, together]
  | cons n rest ih =>
    rw [List.foldl_cons, ih, get?_absorb, notesOn_cons]
    split_ifs with h
    · rw [together_cons, merge_combine_assoc]
    · rfl

theorem isKeyed_foldl_replace (h : m.IsKeyed FileNote.file) (notes : List FileNote) :
    (notes.foldl replace m).IsKeyed FileNote.file := by
  induction notes generalizing m with
  | nil => exact h
  | cons n rest ih => exact ih (h.insert rfl)

theorem isKeyed_absorb (h : m.IsKeyed FileNote.file) (n : FileNote) :
    (m.absorb n).IsKeyed FileNote.file := by
  rw [absorb_eq]
  cases hold : m.get? n.file with
  | none => exact h.insert rfl
  | some k =>
    -- The two notes become one under the path of the old one, which is about the same file.
    apply h.insert
    have hmem : k ∈ m.values.filter fun v => v.file = n.file := by
      rw [h.filter_values, hold]
      exact List.mem_singleton_self k
    exact of_decide_eq_true (List.mem_filter.mp hmem).2

theorem isKeyed_foldl_absorb (h : m.IsKeyed FileNote.file) (notes : List FileNote) :
    (notes.foldl absorb m).IsKeyed FileNote.file := by
  induction notes generalizing m with
  | nil => exact h
  | cons n rest ih => exact ih (isKeyed_absorb h n)

end NoteMap

/-- The notes of two summaries by the files that they are about. -/
abbrev noteMap (base supplemental : List FileNote) : NoteMap :=
  supplemental.foldl NoteMap.absorb (base.foldl NoteMap.replace .empty)

theorem isKeyed_noteMap (base supplemental : List FileNote) :
    (noteMap base supplemental).IsKeyed FileNote.file :=
  NoteMap.isKeyed_foldl_absorb
    (NoteMap.isKeyed_foldl_replace OrderedMap.isKeyed_empty base) supplemental

/-- A merge says of a file what the last note of the base and those of the supplement say
together. -/
theorem get?_noteMap (base supplemental : List FileNote) (file : String) :
    (noteMap base supplemental).get? file =
      (notesOn file base).getLast?.merge FileNote.combine
        (together (notesOn file supplemental)) := by
  rw [NoteMap.get?_foldl_absorb, NoteMap.get?_foldl_replace, OrderedMap.get?_empty, Option.or_none]

/-- A merge lists the files in the order in which they come up. -/
theorem keys_noteMap (base supplemental : List FileNote) :
    (noteMap base supplemental).keys = ((base ++ supplemental).map FileNote.file).eraseDups := by
  have hreplace : ∀ (m : NoteMap) (n : FileNote), (m.replace n).keys =
      if n.file ∈ m.keys then m.keys else m.keys ++ [n.file] :=
    fun m n => OrderedMap.keys_insert m n.file n
  have habsorb : ∀ (m : NoteMap) (n : FileNote), (m.absorb n).keys =
      if n.file ∈ m.keys then m.keys else m.keys ++ [n.file] :=
    fun m n => OrderedMap.keys_insert m n.file _
  have hempty : (OrderedMap.empty : NoteMap).keys = ([] : List String).eraseDups := rfl
  rw [List.map_append]
  exact OrderedMap.keys_foldl OrderedMap.keys habsorb
    (OrderedMap.keys_foldl OrderedMap.keys hreplace hempty base) supplemental

/-- What a merge says of a file is one note at most. -/
theorem notesOn_mergeNotes (base supplemental : List FileNote) (file : String) :
    notesOn file (mergeNotes base supplemental) =
      ((noteMap base supplemental).get? file).toList :=
  (isKeyed_noteMap base supplemental).filter_values file

theorem map_file_mergeNotes (base supplemental : List FileNote) :
    (mergeNotes base supplemental).map FileNote.file =
      ((base ++ supplemental).map FileNote.file).eraseDups := by
  rw [← keys_noteMap]
  exact (isKeyed_noteMap base supplemental).map_values

/-- Merged notes are told by the files and by what is said of each of them. -/
theorem mergeNotes_eq {base supplemental base' supplemental' : List FileNote}
    (hfiles : ((base ++ supplemental).map FileNote.file).eraseDups =
      ((base' ++ supplemental').map FileNote.file).eraseDups)
    (hget : ∀ file, (noteMap base supplemental).get? file =
      (noteMap base' supplemental').get? file) :
    mergeNotes base supplemental = mergeNotes base' supplemental' := by
  have hkeys : (noteMap base supplemental).keys = (noteMap base' supplemental').keys := by
    rw [keys_noteMap, keys_noteMap, hfiles]
  exact congrArg OrderedMap.values
    (OrderedMap.ext_get? (isKeyed_noteMap base supplemental).nodup hkeys hget)

/-- A summary that says nothing but how sure a run is, and what it notes of files. -/
def briefSummary (confidence : Option Double) (fileNotes : List FileNote) : RunSummary where
  overview := ""
  risk := .low
  keyConcerns := []
  whatToTest := []
  confidence := confidence
  fileNotes := fileNotes
  diagram := none

end Triage
