import Triage.Proofs.Occurrences
import Triage.Proofs.Rank
import Triage.Proofs.Summary.Notes
import Triage.Proofs.Text.Tidy

/-!
# Merging passes in groups

Whether the passes of a run are merged one by one or in groups makes no difference to any field but
the confidence, as long as the pass in the middle notes no file twice. The confidence is the same
unless that of the pass in the middle is no number and hides a lower one behind it
(`merge_assoc_iff_and_absorb`). A pass that is merged once more changes nothing.
-/

namespace Triage

/-! ### Confidences -/

/-- The lower of two values, and the first of two that do not compare. -/
def Double.lower (x y : Double) : Double :=
  if y < x then y else x

theorem lowerConfidence_eq_merge (a b : Option Double) :
    lowerConfidence a b = a.merge Double.lower b := by
  cases a <;> cases b <;> rfl

namespace Double

variable {x y z : Double}

theorem lower_assoc (hy : y.rank?.isSome = true) (x z : Double) :
    (x.lower y).lower z = x.lower (y.lower z) := by
  unfold lower
  by_cases hyx : y < x
  · by_cases hzy : z < y
    · rw [if_pos hyx, if_pos hzy, if_pos (lt_trans hzy hyx)]
    · rw [if_pos hyx, if_neg hzy, if_pos hyx]
  · by_cases hzy : z < y
    · rw [if_neg hyx, if_pos hzy]
    · -- Neither step goes down, so both together do not: here `y` has to be a number.
      have hzx : ¬ z < x := fun h => (lt_or_lt_of_lt h hy).elim hzy hyx
      rw [if_neg hyx, if_neg hzy, if_neg hyx, if_neg hzx]

/-- Of three values, the lowest is found either way, unless the one in the middle is no number and
hides a lower one behind it. -/
theorem lower_assoc_iff :
    (x.lower y).lower z = x.lower (y.lower z) ↔ ¬ (y.rank? = none ∧ z < x) := by
  cases hy : y.rank? with
  | some r =>
    have hnumber : y.rank?.isSome = true := by rw [hy, Option.isSome_some]
    simp [lower_assoc hnumber]
  | none =>
    have hxy : x.lower y = x := if_neg (not_lt_of_not_number (Or.inl hy))
    have hyz : y.lower z = y := if_neg (not_lt_of_not_number (Or.inr hy))
    rw [hxy, hyz, hxy, lower]
    split_ifs with hzx
    · have hne : z ≠ x := fun h => lt_irrefl x (h ▸ hzx)
      simp [hne, hzx]
    · simp [hzx]

theorem lower_lower_self (x y : Double) : (x.lower y).lower y = x.lower y := by
  unfold lower
  by_cases hyx : y < x
  · rw [if_pos hyx, if_neg (lt_irrefl y)]
  · rw [if_neg hyx, if_neg hyx]

end Double

/-- Whether the confidence of a pass is no number, and stands between two of which the second is the
lower one. -/
def HidesLower (a b c : Option Double) : Prop :=
  ∃ x y z, a = some x ∧ b = some y ∧ c = some z ∧ y.rank? = none ∧ z < x

theorem lowerConfidence_assoc_iff (a b c : Option Double) :
    lowerConfidence (lowerConfidence a b) c = lowerConfidence a (lowerConfidence b c) ↔
      ¬ HidesLower a b c := by
  simp only [lowerConfidence_eq_merge]
  cases a with
  | none => simp [HidesLower]
  | some x =>
    cases b with
    | none => simp [HidesLower]
    | some y =>
      cases c with
      | none => simp [HidesLower]
      | some z =>
        have hhides : HidesLower (some x) (some y) (some z) ↔ y.rank? = none ∧ z < x := by
          simp [HidesLower]
        rw [hhides, ← Double.lower_assoc_iff]
        exact Option.some_inj

theorem lowerConfidence_absorb (a b : Option Double) :
    lowerConfidence (lowerConfidence a b) b = lowerConfidence a b := by
  simp only [lowerConfidence_eq_merge]
  cases a with
  | none =>
    cases b with
    | none => rfl
    | some y => exact congrArg some (if_neg (Double.lt_irrefl y))
  | some x =>
    cases b with
    | none => rfl
    | some y => exact congrArg some (Double.lower_lower_self x y)

/-! ### Texts -/

/-- The texts of a list that say something, without blanks around them. -/
def spokenTexts (texts : List String) : List String :=
  (texts.map Text.trimmed).filter (· ≠ "")

theorem unionTexts_eq (limit : ℕ) (texts : List String) :
    unionTexts limit texts = (spokenTexts texts).eraseDups.take limit := rfl

theorem spokenTexts_append (texts more : List String) :
    spokenTexts (texts ++ more) = spokenTexts texts ++ spokenTexts more := by
  rw [spokenTexts, List.map_append, List.filter_append, spokenTexts, spokenTexts]

/-- Texts that were united say something, and have no blanks around them. -/
theorem spokenTexts_unionTexts (limit : ℕ) (texts : List String) :
    spokenTexts (unionTexts limit texts) = unionTexts limit texts := by
  have hspoken : ∀ t ∈ unionTexts limit texts, Text.trimmed t = t ∧ t ≠ "" := by
    intro t ht
    have hmem := List.mem_eraseDups.mp (List.mem_of_mem_take ht)
    obtain ⟨htrimmed, hne⟩ := List.mem_filter.mp hmem
    obtain ⟨s, -, rfl⟩ := List.mem_map.mp htrimmed
    exact ⟨Text.trimmed_trimmed s, of_decide_eq_true hne⟩
  have hmap : (unionTexts limit texts).map Text.trimmed = unionTexts limit texts :=
    (List.map_congr_left fun t ht => (hspoken t ht).1).trans (List.map_id _)
  rw [spokenTexts, hmap, List.filter_eq_self]
  exact fun t ht => decide_eq_true (hspoken t ht).2

theorem unionTexts_unionTexts_append (limit : ℕ) (texts more : List String) :
    unionTexts limit (unionTexts limit texts ++ more) = unionTexts limit (texts ++ more) := by
  rw [unionTexts_eq, spokenTexts_append, spokenTexts_unionTexts, unionTexts_eq,
    take_eraseDups_take_append, ← spokenTexts_append, ← unionTexts_eq]

theorem unionTexts_append_unionTexts (limit : ℕ) (texts more : List String) :
    unionTexts limit (texts ++ unionTexts limit more) = unionTexts limit (texts ++ more) := by
  rw [unionTexts_eq, spokenTexts_append, spokenTexts_unionTexts, unionTexts_eq,
    take_eraseDups_append_take, ← spokenTexts_append, ← unionTexts_eq]

theorem unionTexts_assoc (limit : ℕ) (a b c : List String) :
    unionTexts limit (unionTexts limit (a ++ b) ++ c) =
      unionTexts limit (a ++ unionTexts limit (b ++ c)) := by
  rw [unionTexts_unionTexts_append, unionTexts_append_unionTexts, List.append_assoc]

theorem unionTexts_absorb (limit : ℕ) (a b : List String) :
    unionTexts limit (unionTexts limit (a ++ b) ++ b) = unionTexts limit (a ++ b) := by
  rw [unionTexts_unionTexts_append, unionTexts_eq, spokenTexts_append (a ++ b)]
  have hsubset : spokenTexts b ⊆ spokenTexts (a ++ b) := by
    rw [spokenTexts_append]
    exact List.subset_append_right _ _
  rw [eraseDups_append_of_subset hsubset, ← unionTexts_eq]

/-! ### Notes -/

/-- A list that notes no file twice says the same of a file with its last note as with all. -/
theorem getLast?_notesOn {notes : List FileNote} (h : (notes.map FileNote.file).Nodup)
    (file : String) : (notesOn file notes).getLast? = together (notesOn file notes) := by
  conv_rhs => rw [notesOn_eq_toList h file]
  rw [together_toList]

theorem getLast?_notesOn_mergeNotes (base supplemental : List FileNote) (file : String) :
    (notesOn file (mergeNotes base supplemental)).getLast? =
      (noteMap base supplemental).get? file := by
  rw [notesOn_mergeNotes]
  cases (noteMap base supplemental).get? file with
  | none => rfl
  | some n => rfl

theorem mergeNotes_assoc (a c : List FileNote) {b : List FileNote}
    (h : (b.map FileNote.file).Nodup) :
    mergeNotes (mergeNotes a b) c = mergeNotes a (mergeNotes b c) := by
  apply mergeNotes_eq
  · simp only [List.map_append, map_file_mergeNotes, eraseDups_eraseDups_append,
      eraseDups_append_eraseDups, List.append_assoc]
  · intro file
    -- What a merge says of the file is one note, so the last of its notes is all that it says; for
    -- the pass in the middle that takes the hypothesis.
    rw [get?_noteMap, getLast?_notesOn_mergeNotes, get?_noteMap, get?_noteMap a,
      notesOn_mergeNotes, together_toList, get?_noteMap, getLast?_notesOn h, merge_combine_assoc]

theorem mergeNotes_absorb (a b : List FileNote) :
    mergeNotes (mergeNotes a b) b = mergeNotes a b := by
  apply mergeNotes_eq
  · have hsubset : b.map FileNote.file ⊆ (a ++ b).map FileNote.file := by
      rw [List.map_append]
      exact List.subset_append_right _ _
    rw [List.map_append, map_file_mergeNotes, eraseDups_eraseDups_append,
      eraseDups_append_of_subset hsubset]
  · intro file
    rw [get?_noteMap, getLast?_notesOn_mergeNotes, get?_noteMap, merge_combine_assoc]
    congr 1
    exact Std.IdempotentOp.idempotent _

/-! ### Summaries -/

theorem RunSummary.merge_assoc_iff (a c : RunSummary) {b : RunSummary}
    (h : (b.fileNotes.map FileNote.file).Nodup) (maxKeyConcerns : Int) :
    (a.merge b maxKeyConcerns).merge c maxKeyConcerns =
        a.merge (b.merge c maxKeyConcerns) maxKeyConcerns ↔
      ¬ HidesLower a.confidence b.confidence c.confidence := by
  rw [← lowerConfidence_assoc_iff]
  constructor
  · exact congrArg RunSummary.confidence
  · intro hconfidence
    rw [RunSummary.mk.injEq]
    exact ⟨rfl, Risk.higher_assoc .., unionTexts_assoc .., unionTexts_assoc .., hconfidence,
      mergeNotes_assoc _ _ h, Option.or_assoc⟩

theorem RunSummary.merge_absorb (a b : RunSummary) (maxKeyConcerns : Int) :
    (a.merge b maxKeyConcerns).merge b maxKeyConcerns = a.merge b maxKeyConcerns := by
  have hrisk : (a.risk.higher b.risk).higher b.risk = a.risk.higher b.risk := by
    rw [Risk.higher_assoc, Risk.higher_self]
  have hdiagram : (a.diagram.or b.diagram).or b.diagram = a.diagram.or b.diagram := by
    rw [Option.or_assoc, Option.or_self]
  rw [RunSummary.mk.injEq]
  exact ⟨rfl, hrisk, unionTexts_absorb .., unionTexts_absorb .., lowerConfidence_absorb ..,
    mergeNotes_absorb .., hdiagram⟩

/-- Passes can be merged in groups iff no confidence hides a lower one, and a pass that is merged
once more changes nothing. -/
theorem merge_assoc_iff_and_absorb (maxKeyConcerns : Int) :
    (∀ a b c : RunSummary, (b.fileNotes.map FileNote.file).Nodup →
      ((a.merge b maxKeyConcerns).merge c maxKeyConcerns =
          a.merge (b.merge c maxKeyConcerns) maxKeyConcerns ↔
        ¬ HidesLower a.confidence b.confidence c.confidence)) ∧
      ∀ a b : RunSummary,
        (a.merge b maxKeyConcerns).merge b maxKeyConcerns = a.merge b maxKeyConcerns :=
  ⟨fun a _ c h => a.merge_assoc_iff c h maxKeyConcerns,
    fun a b => a.merge_absorb b maxKeyConcerns⟩

/-- A summary that says no more than how sure a run is. -/
def sureness (x : Double) : RunSummary :=
  briefSummary (some x) []

/-- A summary that notes two files. -/
def twoNotes : RunSummary :=
  briefSummary (some (.ofRatio 1 2))
    [⟨"./src/a.py", "The parser drops a field", none⟩, ⟨"src/b.py", "", some .low⟩]

/-- Three passes, each of them less sure than the one before, can be grouped either way. -/
theorem merge_assoc_lessSure :
    ((sureness (.ofRatio 3 4)).merge twoNotes 5).merge (sureness (.ofRatio 1 4)) 5 =
      (sureness (.ofRatio 3 4)).merge (twoNotes.merge (sureness (.ofRatio 1 4)) 5) 5 := by
  have hfiles : (twoNotes.fileNotes.map FileNote.file).Nodup := by decide +kernel
  apply ((merge_assoc_iff_and_absorb 5).1 _ _ _ hfiles).mpr
  rintro ⟨x, y, z, -, hy, -, hnumber, -⟩
  obtain rfl := Option.some.inj hy
  exact absurd hnumber (by decide +kernel)

/-- A document that gives no more than a confidence is read as a summary that says no more. -/
theorem ofValue_sureness (x : Double) :
    RunSummary.ofValue (.record [("risk", .text "low"), ("confidence", .real x)]) =
      .ok (sureness x) := rfl

/-- A confidence that is no number hides the lower one that a later pass has, though all three
summaries can be read. -/
theorem not_merge_assoc_notNumber :
    (∀ x, ∃ document, RunSummary.ofValue document = .ok (sureness x)) ∧
      ((sureness (.nan false)).fileNotes.map FileNote.file).Nodup ∧
      ((sureness (.ofRatio 1 2)).merge (sureness (.nan false)) 5).merge
          (sureness (.ofRatio 1 4)) 5 ≠
        (sureness (.ofRatio 1 2)).merge
          ((sureness (.nan false)).merge (sureness (.ofRatio 1 4)) 5) 5 := by
  refine ⟨fun x => ⟨_, ofValue_sureness x⟩, List.nodup_nil, ?_⟩
  intro heq
  have hconfidence := congrArg RunSummary.confidence heq
  exact absurd hconfidence (by decide +kernel)

end Triage
