import Triage.Proofs.Summary.Notes

/-!
# What a merge keeps of the notes

A merge notes every file once, and its note sums up those that stand: the last one of the base and
all of the supplement. The notes that it replaces, earlier ones of the base, are gone, so that the
note sums up all of them only if these have nothing to add (`merge_sumsUp_iff`). A base that notes
no file twice loses nothing (`merge_sumsUp_of_nodup`).
-/

namespace Triage

/-- Whether a note sums up others: it has the longest of their texts and the highest of their
risks, and none only if none of them has one. -/
structure FileNote.SumsUp (n : FileNote) (notes : List FileNote) : Prop where
  text : n.summary ∈ notes.map FileNote.summary
  longest : ∀ m ∈ notes, m.summary.length ≤ n.summary.length
  risk : n.risk ∈ notes.map FileNote.risk
  highest : ∀ m ∈ notes, riskLevel m.risk ≤ riskLevel n.risk

variable {n : FileNote} {notes base supplemental : List FileNote} {file : String}

theorem FileNote.sumsUp_singleton (n : FileNote) : n.SumsUp [n] where
  text := List.mem_singleton_self _
  longest := by
    intro m hm
    obtain rfl := List.mem_singleton.mp hm
    exact Nat.le_refl _
  risk := List.mem_singleton_self _
  highest := by
    intro m hm
    obtain rfl := List.mem_singleton.mp hm
    exact Nat.le_refl _

/-- A note combined with one that sums up others sums up all of them. -/
theorem FileNote.SumsUp.combine (h : n.SumsUp notes) (first : FileNote) :
    (first.combine n).SumsUp (first :: notes) := by
  obtain ⟨htext, hfirstText, hnText⟩ := longer_spec first.summary n.summary
  obtain ⟨hrisk, hfirstRisk, hnRisk⟩ := higherRisk_spec first.risk n.risk
  rw [FileNote.combine_eq]
  constructor
  · rw [List.map_cons, List.mem_cons]
    rcases htext with heq | heq
    · exact Or.inl heq
    · rw [heq]
      exact Or.inr h.text
  · rw [List.forall_mem_cons]
    exact ⟨hfirstText, fun m hm => Nat.le_trans (h.longest m hm) hnText⟩
  · rw [List.map_cons, List.mem_cons]
    rcases hrisk with heq | heq
    · exact Or.inl heq
    · rw [heq]
      exact Or.inr h.risk
  · rw [List.forall_mem_cons]
    exact ⟨hfirstRisk, fun m hm => Nat.le_trans (h.highest m hm) hnRisk⟩

theorem exists_together (h : notes ≠ []) : ∃ n, together notes = some n := by
  obtain ⟨first, rest, rfl⟩ := List.exists_cons_of_ne_nil h
  rw [together_cons]
  cases together rest with
  | none => exact ⟨_, rfl⟩
  | some m => exact ⟨_, rfl⟩

/-- What notes say together sums them up. -/
theorem sumsUp_together (h : together notes = some n) : n.SumsUp notes := by
  induction notes generalizing n with
  | nil => exact absurd h (by simp [together])
  | cons first rest ih =>
    rcases eq_or_ne rest [] with rfl | hrest
    · obtain rfl : first = n := Option.some.inj h
      exact first.sumsUp_singleton
    · obtain ⟨m, hm⟩ := exists_together hrest
      rw [together_cons, hm] at h
      obtain rfl : first.combine m = n := Option.some.inj h
      exact (ih hm).combine first

/-! ### Notes that stand -/

/-- The notes on a file that a merge puts together. -/
def standingNotes (file : String) (base supplemental : List FileNote) : List FileNote :=
  (notesOn file base).getLast?.toList ++ notesOn file supplemental

theorem standingNotes_subset :
    standingNotes file base supplemental ⊆ notesOn file (base ++ supplemental) := by
  intro m hm
  rw [notesOn, List.filter_append]
  rcases List.mem_append.mp hm with hlast | hm
  · rw [Option.mem_toList] at hlast
    exact List.mem_append_left _ (List.mem_of_getLast? hlast)
  · exact List.mem_append_right _ hm

theorem standingNotes_ne_nil (h : file ∈ (base ++ supplemental).map FileNote.file) :
    standingNotes file base supplemental ≠ [] := by
  obtain ⟨m, hm, rfl⟩ := List.mem_map.mp h
  intro hnil
  rw [standingNotes, List.append_eq_nil_iff, Option.toList_eq_nil_iff,
    List.getLast?_eq_none_iff] at hnil
  rcases List.mem_append.mp hm with hm | hm
  · exact List.ne_nil_of_mem (mem_notesOn.mpr ⟨hm, rfl⟩) hnil.1
  · exact List.ne_nil_of_mem (mem_notesOn.mpr ⟨hm, rfl⟩) hnil.2

/-- If the base notes no file twice, all notes stand. -/
theorem standingNotes_eq (h : (base.map FileNote.file).Nodup) :
    standingNotes file base supplemental = notesOn file (base ++ supplemental) := by
  rw [standingNotes, ← notesOn_eq_toList h, notesOn, notesOn, notesOn, List.filter_append]

/-- A merge says of a file what the standing notes say together. -/
theorem notesOn_mergeNotes_eq (file : String) (base supplemental : List FileNote) :
    notesOn file (mergeNotes base supplemental) =
      (together (standingNotes file base supplemental)).toList := by
  rw [notesOn_mergeNotes, get?_noteMap, standingNotes, together_append, together_toList]

/-- A note sums up all notes on a file iff those of the base say no more than the standing ones. -/
theorem FileNote.SumsUp.all_iff (h : n.SumsUp (standingNotes file base supplemental)) :
    n.SumsUp (notesOn file (base ++ supplemental)) ↔
      ∀ m ∈ notesOn file base,
        (∃ k ∈ standingNotes file base supplemental, m.summary.length ≤ k.summary.length) ∧
        ∃ k ∈ standingNotes file base supplemental, riskLevel m.risk ≤ riskLevel k.risk := by
  have hall : notesOn file (base ++ supplemental) =
      notesOn file base ++ notesOn file supplemental := List.filter_append ..
  have hstand : ∀ m ∈ notesOn file supplemental, m ∈ standingNotes file base supplemental :=
    fun m hm => List.mem_append_right _ hm
  constructor
  · intro hsums m hm
    have hmem : m ∈ notesOn file (base ++ supplemental) := hall ▸ List.mem_append_left _ hm
    obtain ⟨k, hk, htext⟩ := List.mem_map.mp h.text
    obtain ⟨l, hl, hrisk⟩ := List.mem_map.mp h.risk
    exact ⟨⟨k, hk, htext ▸ hsums.longest m hmem⟩, l, hl, hrisk ▸ hsums.highest m hmem⟩
  · intro hbase
    refine ⟨List.map_subset _ standingNotes_subset h.text, ?_,
      List.map_subset _ standingNotes_subset h.risk, ?_⟩
    · intro m hm
      rw [hall] at hm
      rcases List.mem_append.mp hm with hm | hm
      · obtain ⟨⟨k, hk, hle⟩, -⟩ := hbase m hm
        exact Nat.le_trans hle (h.longest k hk)
      · exact h.longest m (hstand m hm)
    · intro m hm
      rw [hall] at hm
      rcases List.mem_append.mp hm with hm | hm
      · obtain ⟨-, k, hk, hle⟩ := hbase m hm
        exact Nat.le_trans hle (h.highest k hk)
      · exact h.highest m (hstand m hm)

theorem exists_notesOn_mergeNotes (hfile : file ∈ (base ++ supplemental).map FileNote.file) :
    ∃ n, notesOn file (mergeNotes base supplemental) = [n] ∧
      n.SumsUp (standingNotes file base supplemental) := by
  obtain ⟨n, hn⟩ := exists_together (standingNotes_ne_nil hfile)
  refine ⟨n, ?_, sumsUp_together hn⟩
  rw [notesOn_mergeNotes_eq, hn, Option.toList_some]

/-- A merge has one note on each file of its summaries, and it sums up those that stand. It sums up
all of them iff no note of the base says more than these. -/
theorem merge_sumsUp_iff (base supplemental : RunSummary) (maxKeyConcerns : Int) {file : String}
    (hfile : file ∈ (base.fileNotes ++ supplemental.fileNotes).map FileNote.file) :
    ∃ n, notesOn file (base.merge supplemental maxKeyConcerns).fileNotes = [n] ∧
      n.SumsUp (standingNotes file base.fileNotes supplemental.fileNotes) ∧
      (n.SumsUp (notesOn file (base.fileNotes ++ supplemental.fileNotes)) ↔
        ∀ m ∈ notesOn file base.fileNotes,
          (∃ k ∈ standingNotes file base.fileNotes supplemental.fileNotes,
            m.summary.length ≤ k.summary.length) ∧
          ∃ k ∈ standingNotes file base.fileNotes supplemental.fileNotes,
            riskLevel m.risk ≤ riskLevel k.risk) := by
  obtain ⟨n, hn, hsums⟩ := exists_notesOn_mergeNotes hfile
  exact ⟨n, hn, hsums, hsums.all_iff⟩

/-- A base that notes no file twice loses nothing. -/
theorem merge_sumsUp_of_nodup (base supplemental : RunSummary) (maxKeyConcerns : Int)
    {file : String} (hfile : file ∈ (base.fileNotes ++ supplemental.fileNotes).map FileNote.file)
    (hbase : (base.fileNotes.map FileNote.file).Nodup) :
    ∃ n, notesOn file (base.merge supplemental maxKeyConcerns).fileNotes = [n] ∧
      n.SumsUp (notesOn file (base.fileNotes ++ supplemental.fileNotes)) := by
  obtain ⟨n, hn, hsums⟩ := exists_notesOn_mergeNotes hfile
  rw [standingNotes_eq hbase] at hsums
  exact ⟨n, hn, hsums⟩

/-- A base that notes a file twice, each time under another spelling of its path. -/
def notedTwice : RunSummary :=
  briefSummary none [⟨"src/a.py", "The parser drops the last field", some .high⟩,
    ⟨"./src/a.py", "short", some .low⟩]

/-- A supplement that says more of the file than both. -/
def notedAgain : RunSummary :=
  briefSummary none [⟨"/src/a.py", "The parser drops the last field of a row", some .high⟩]

/-- Such a supplement makes up for what the base lost. -/
theorem merge_sumsUp_notedTwice :
    ∃ n, notesOn "src/a.py" (notedTwice.merge notedAgain 5).fileNotes = [n] ∧
      n.SumsUp (notesOn "src/a.py" (notedTwice.fileNotes ++ notedAgain.fileNotes)) := by
  have hfile : "src/a.py" ∈ (notedTwice.fileNotes ++ notedAgain.fileNotes).map FileNote.file := by
    decide +kernel
  obtain ⟨n, hn, -, hall⟩ := merge_sumsUp_iff notedTwice notedAgain 5 hfile
  refine ⟨n, hn, hall.mpr ?_⟩
  decide +kernel

/-- What the base notes first of a file is lost to what it notes later. -/
theorem not_sumsUp_notedTwice :
    ¬ ∃ n, notesOn "src/a.py" (notedTwice.merge (briefSummary none []) 5).fileNotes = [n] ∧
      n.SumsUp (notesOn "src/a.py" (notedTwice.fileNotes ++ [])) := by
  rintro ⟨n, hn, hsums⟩
  have hlast : notesOn "src/a.py" (notedTwice.merge (briefSummary none []) 5).fileNotes =
      [⟨"./src/a.py", "short", some .low⟩] := by
    decide +kernel
  rw [hlast, List.singleton_inj] at hn
  subst hn
  have hfirst : (⟨"src/a.py", "The parser drops the last field", some .high⟩ : FileNote) ∈
      notesOn "src/a.py" (notedTwice.fileNotes ++ []) := by
    decide +kernel
  exact absurd (hsums.highest _ hfirst) (by decide)

end Triage
