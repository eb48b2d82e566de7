import Triage.Command.Basic
import Triage.Proofs.Guards

/-!
# Reading reviews

A review, and a file of refined findings, is a document that lists comments: one that is a list, or
a table with a field for them. A review may have a summary beside them. `readReview_eq` and
`readFindings_eq` say what both readers do once there is a document.
-/

namespace Triage.Command

variable {files : Files} {file : String}

/-- The comments that a document lists. -/
def comments? (v : Value) : Option (List Value) :=
  match v with
  | .list items => some items
  | .table entries =>
    match (Value.table entries).field? "comments" with
    | none => some []
    | some (.list items) => some items
    | some _ => none
  | .scalar _ => none

theorem comments?_of_field? {v : Value} {items : List Value}
    (h : v.field? "comments" = some (.list items)) : comments? v = some items := by
  cases v with
  | scalar s => exact absurd h (by simp [Value.field?])
  | list _ => exact absurd h (by simp [Value.field?])
  | table entries =>
    unfold comments?
    simp only [h]

/-- The summary beside the comments. -/
def summary? (v : Value) : Except SummaryError (Option RunSummary) :=
  match v.get? "summary" with
  | none => .ok none
  | some s => (RunSummary.ofValue s).map some

/-- What a document that lists no comments should be. -/
def listingShape : Value → Shape
  | .scalar _ => .listOrTable
  | _ => .commentList

theorem readReview_eq [Nesting] (files : Files) (file : String) :
    readReview files file = readDocument files file >>= fun v =>
      match comments? v with
      | none => .error (.badShape file (listingShape v))
      | some comments => (placed (.summary file) (summary? v)).map fun s => (comments, s) := by
  unfold readReview
  cases readDocument files file with
  | error e => rfl
  | ok v => cases v with
    | scalar s => rfl
    | list items => rfl
    | table entries =>
      simp only [bind, Except.bind, comments?, summary?, listingShape]
      cases (Value.table entries).get? "summary" with
      | none => cases (Value.table entries).field? "comments" with
        | none => rfl
        | some w => cases w <;> rfl
      | some s =>
        simp only
        -- Whether the summary is one does not matter without a list of comments.
        cases RunSummary.ofValue s with
        | error e => cases (Value.table entries).field? "comments" with
          | none => rfl
          | some w => cases w <;> rfl
        | ok t => cases (Value.table entries).field? "comments" with
          | none => rfl
          | some w => cases w <;> rfl

theorem readFindings_eq [Nesting] (files : Files) (file : String) :
    readFindings files file = readDocument files file >>= fun v =>
      match comments? v with
      | none => .error (.badShape file .findingList)
      | some items => placed (.finding file) (items.mapM Finding.ofValue) := by
  unfold readFindings
  cases readDocument files file with
  | error e => rfl
  | ok v => cases v with
    | scalar s => rfl
    | list items => rfl
    | table entries =>
      simp only [bind, Except.bind, comments?]
      cases (Value.table entries).field? "comments" with
      | none => rfl
      | some w => cases w with
        | list items => rfl
        | scalar _ => rfl
        | table _ => rfl

/-- A review is read iff there is a document that lists comments, and whose summary is one if it has
any. -/
theorem readReview_eq_ok_iff [Nesting] {comments : List Value} {summary : Option RunSummary} :
    readReview files file = .ok (comments, summary) ↔
      ∃ v, readDocument files file = .ok v ∧ comments? v = some comments ∧
        summary? v = .ok summary := by
  rw [readReview_eq, bind_eq_ok_iff]
  refine exists_congr fun v => and_congr_right fun _ => ?_
  cases comments? v with
  | none => simp
  | some items => cases summary? v <;> simp [placed, Except.map, Except.mapError]

/-- Refined findings are read iff there is a document that lists nothing but findings. -/
theorem readFindings_eq_ok_iff [Nesting] {findings : List Finding} :
    readFindings files file = .ok findings ↔
      ∃ v items, readDocument files file = .ok v ∧ comments? v = some items ∧
        items.mapM Finding.ofValue = .ok findings := by
  rw [readFindings_eq, bind_eq_ok_iff]
  refine exists_congr fun v => ?_
  rw [exists_and_left]
  refine and_congr_right fun _ => ?_
  cases comments? v with
  | none => simp
  | some items => simp [placed]

/-! ### The inputs of the first command -/

/-- Reads a second review, if there is a file for one. -/
def readExtra [Nesting] (files : Files) (file : Option String) :
    Input (Option (List Value × Option RunSummary)) :=
  match file with
  | none => .ok none
  | some name => (readReview files name).map some

theorem readRefineInputs_eq [Nesting] (files : Files) (o : Options) :
    readRefineInputs files o = do
      let settings ← readSettings files (file? o "--config")
      let index ← readDiff files (Command.file o "--diff")
      let (comments, summary) ← readReview files (Command.file o "--findings")
      let changedFiles ← readChangedFiles files (file? o "--changed-files")
      let policy ← readPolicy files (file? o "--feedback")
      let supplemental ← readExtra files (file? o "--supplemental")
      return { settings, index, comments, summary, changedFiles, policy, supplemental } := by
  unfold readRefineInputs readExtra
  cases file? o "--supplemental" with
  | none => rfl
  | some name => rfl

/-- The inputs are what the files give. -/
theorem readRefineInputs_eq_ok_iff [Nesting] {o : Options} {i : RefineInputs} :
    readRefineInputs files o = .ok i ↔
      readSettings files (file? o "--config") = .ok i.settings ∧
      readDiff files (Command.file o "--diff") = .ok i.index ∧
      readReview files (Command.file o "--findings") = .ok (i.comments, i.summary) ∧
      readChangedFiles files (file? o "--changed-files") = .ok i.changedFiles ∧
      readPolicy files (file? o "--feedback") = .ok i.policy ∧
      readExtra files (file? o "--supplemental") = .ok i.supplemental := by
  rw [readRefineInputs_eq]
  simp only [bind_eq_ok_iff, pure_eq_ok_iff, Prod.exists]
  constructor
  · rintro ⟨_, hsettings, _, hindex, _, _, hreview, _, hchanged, _, hpolicy, _, hextra, rfl⟩
    exact ⟨hsettings, hindex, hreview, hchanged, hpolicy, hextra⟩
  · rintro ⟨hsettings, hindex, hreview, hchanged, hpolicy, hextra⟩
    exact ⟨_, hsettings, _, hindex, _, _, hreview, _, hchanged, _, hpolicy, _, hextra, rfl⟩

end Triage.Command
