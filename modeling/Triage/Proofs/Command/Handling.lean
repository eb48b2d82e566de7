import Triage.Proofs.Command.Documents
import Triage.Proofs.Command.Faults
import Triage.Proofs.Command.Texts
import Triage.Proofs.Coverage.Plans
import Triage.Proofs.Json.Roundtrip
import Triage.Proofs.Supplement.Extension

/-!
# Inputs that a command handles

The first command writes a document, or fails with a message, unless something breaks it: a file
that is beyond its reader, or a limit that the work on the inputs runs into (`refine_handled_iff`).
Only what is read before it can keep a fault from being met.
-/

namespace Triage

/-- A second pass over the result of a refinement has no draft without an id or a key. -/
theorem isIdentifiable_of_refine {drafts : List Draft} {index : DiffIndex}
    {files : List ChangedFile} {o : RefineOptions} {r : Refined}
    (hr : refine drafts index files o = .ok r) : ∀ f ∈ r.findings, f.isIdentifiable = true := by
  intro f hf
  obtain ⟨-, -, g, -, j, k, rfl⟩ := exists_draft_of_mem_findings hr hf
  -- The id and key that were filled in are still there, with numbers behind them.
  refine Finding.isIdentifiable_of_isIdentity ?_ ?_
  · show IsIdentity (numbered (g.canonical.shown index o).id j)
    rw [Finding.id_shown]
    exact (Finding.isIdentity_id_canonical g).numbered j
  · show IsIdentity (numbered (g.canonical.shown index o).key k)
    rw [Finding.key_shown]
    exact (Finding.isIdentity_key_canonical g).numbered k

namespace Command

/-! ### Work on the inputs -/

namespace RefineInputs

variable {i : RefineInputs} {base : Refined}

/-- Whether raw comments can be refined. -/
def Refines (i : RefineInputs) (comments : List Value) : Prop :=
  IsRefinable (comments.map .document) i.index i.changedFiles
    (Settings.refineOptions i.settings i.policy)

theorem exists_refined_iff {comments : List Value} :
    (∃ r, i.refined comments = .ok r) ↔ i.Refines comments :=
  exists_refine_eq_ok_iff

/-- The files that a second pass after some findings would be for. -/
def targets (i : RefineInputs) (base : Refined) : List ChangedFile :=
  let changed := ChangedFiles.ofRecords i.changedFiles
  targetFiles i.settings.limits.maxCoverageTargets
    (uncoveredFiles changed (coveredPaths changed base.findings))

/-- Whether a limit ends the work on inputs: comments cannot be refined, the lines that changed in a
target are too many for a text, or so are things in the document. -/
inductive StopsWork (i : RefineInputs) : Prop
  | comments (stops : ¬ i.Refines i.comments)
  | churn {base : Refined} {f : ChangedFile} (refined : i.refined i.comments = .ok base)
    (target : f ∈ i.targets base) (unwritable : f.hasReason = false)
  | supplemental {comments : List Value} {summary : Option RunSummary}
    (given : i.supplemental = some (comments, summary)) (stops : ¬ i.Refines comments)
  | print {doc : Value} (made : i.document = .ok doc)
    (unwritable : Json.hasShortIntegers doc = false)

/-- Nothing but comments that cannot be refined keeps a second pass from a result. -/
theorem exists_withSupplement_iff :
    (∃ result, i.withSupplement base = .ok result) ↔
      ∀ comments summary, i.supplemental = some (comments, summary) → i.Refines comments := by
  constructor
  · rintro ⟨⟨findings, fields, summary⟩, h⟩ comments extraSummary hgiven
    rcases withSupplement_cases h with ⟨hnone, -⟩ | ⟨_, _, extra, _, hsome, hextra, -⟩
    · exact absurd (hnone.symm.trans hgiven) (by simp)
    · obtain ⟨rfl, -⟩ := Prod.mk.inj (Option.some.inj (hsome.symm.trans hgiven))
      exact exists_refined_iff.mp ⟨extra, hextra⟩
  · intro h
    unfold withSupplement
    cases hgiven : i.supplemental with
    | none => exact ⟨_, rfl⟩
    | some given =>
      obtain ⟨comments, extraSummary⟩ := given
      obtain ⟨extra, hextra⟩ := exists_refined_iff.mpr (h comments extraSummary hgiven)
      -- Refined findings have ids and keys, so none of them stops the second pass.
      have hids : ∀ d ∈ extra.findings.map Draft.finding, d.IsIdentifiable := by
        intro d hd f hread
        obtain ⟨g, hg, rfl⟩ := List.mem_map.mp hd
        obtain rfl : g = f := Except.ok.inj hread
        exact isIdentifiable_of_refine hextra g hg
      obtain ⟨merged, hmerged⟩ := (exists_supplement_eq_ok_iff base.findings _).mpr hids
      simp only [bind_eq_ok_iff, pure_eq_ok_iff]
      exact ⟨_, extra, hextra, _, hmerged, rfl⟩

/-- The work comes to a document that can be written iff no limit ends it. -/
theorem exists_document_iff :
    (∃ doc, i.document = .ok doc ∧ Json.hasShortIntegers doc = true) ↔ ¬ StopsWork i := by
  constructor
  · rintro ⟨doc, hdoc, hshort⟩ hstops
    obtain ⟨base, plan, findings, fields, summary, hbase, hplan, hextra, -⟩ :=
      document_eq_ok_iff.mp hdoc
    -- Every way to stop is at odds with the stage that it would have stopped.
    cases hstops with
    | comments stops => exact stops (exists_refined_iff.mp ⟨base, hbase⟩)
    | churn refined target unwritable =>
      obtain rfl := Except.ok.inj (hbase.symm.trans refined)
      have hreason := exists_coveragePlan_iff.mp ⟨plan, hplan⟩ _ target
      exact absurd hreason (by simp [unwritable])
    | supplemental given stops => exact stops (exists_withSupplement_iff.mp ⟨_, hextra⟩ _ _ given)
    | print made unwritable =>
      obtain rfl := Except.ok.inj (hdoc.symm.trans made)
      exact absurd hshort (by simp [unwritable])
  · intro h
    -- Stage after stage has a result, or else the work would have ended there.
    have hcomments : i.Refines i.comments := by
      by_contra hstops
      exact h (.comments hstops)
    obtain ⟨base, hbase⟩ := exists_refined_iff.mpr hcomments
    have hreasons : ∀ f ∈ i.targets base, f.hasReason = true := by
      intro f hf
      by_contra hreason
      exact h (.churn hbase hf (Bool.eq_false_iff.mpr hreason))
    obtain ⟨plan, hplan⟩ := exists_coveragePlan_iff.mpr hreasons
    have hsecond : ∀ comments summary, i.supplemental = some (comments, summary) →
        i.Refines comments := by
      intro comments summary hgiven
      by_contra hstops
      exact h (.supplemental hgiven hstops)
    obtain ⟨⟨findings, fields, summary⟩, hextra⟩ := exists_withSupplement_iff.mpr hsecond
    have hdoc := document_eq_ok_iff.mpr
      ⟨base, plan, findings, fields, summary, hbase, hplan, hextra, rfl⟩
    refine ⟨_, hdoc, ?_⟩
    by_contra hshort
    exact h (.print hdoc (Bool.eq_false_iff.mpr hshort))

end RefineInputs

/-! ### Reading the inputs -/

variable {files : Files} {o : Options}

/-- Whether a file is beyond its reader and those before it were read. -/
inductive StopsInputs [Nesting] (files : Files) (o : Options) : Prop
  | settings {name : String} (named : file? o "--config" = some name)
    (stops : StopsSettings files name)
  | diff {s : Settings} (settings : readSettings files (file? o "--config") = .ok s)
    (stops : StopsDiff files (file o "--diff"))
  | findings {s : Settings} {index : DiffIndex}
    (settings : readSettings files (file? o "--config") = .ok s)
    (diff : readDiff files (file o "--diff") = .ok index)
    (stops : StopsReview files (file o "--findings"))
  | changedFiles {s : Settings} {index : DiffIndex} {review : List Value × Option RunSummary}
    {name : String}
    (settings : readSettings files (file? o "--config") = .ok s)
    (diff : readDiff files (file o "--diff") = .ok index)
    (findings : readReview files (file o "--findings") = .ok review)
    (named : file? o "--changed-files" = some name) (stops : StopsDocument files name)
  | feedback {s : Settings} {index : DiffIndex} {review : List Value × Option RunSummary}
    {changed : List ChangedFile} {name : String}
    (settings : readSettings files (file? o "--config") = .ok s)
    (diff : readDiff files (file o "--diff") = .ok index)
    (findings : readReview files (file o "--findings") = .ok review)
    (changedFiles : readChangedFiles files (file? o "--changed-files") = .ok changed)
    (named : file? o "--feedback" = some name) (stops : StopsPolicy files name)
  | supplemental {s : Settings} {index : DiffIndex} {review : List Value × Option RunSummary}
    {changed : List ChangedFile} {policy : FeedbackPolicy} {name : String}
    (settings : readSettings files (file? o "--config") = .ok s)
    (diff : readDiff files (file o "--diff") = .ok index)
    (findings : readReview files (file o "--findings") = .ok review)
    (changedFiles : readChangedFiles files (file? o "--changed-files") = .ok changed)
    (feedback : readPolicy files (file? o "--feedback") = .ok policy)
    (named : file? o "--supplemental" = some name) (stops : StopsReview files name)

theorem isFatal_readRefineInputs_iff [Nesting] :
    FailsWith InputError.IsFatal (readRefineInputs files o) ↔ StopsInputs files o := by
  -- The readers are in line: each is reached if all before it succeeded.
  rw [readRefineInputs_eq]
  simp only [failsWith_bind_iff, isFatal_readSettings_iff, isFatal_readDiff_iff,
    isFatal_readReview_iff, isFatal_readChangedFiles_iff, isFatal_readPolicy_iff,
    isFatal_readExtra_iff, not_failsWith_pure, and_false, exists_false, or_false]
  constructor
  · rintro (⟨_, hnamed, hstops⟩ | ⟨_, hsettings, hstops | ⟨_, hdiff, hstops |
      ⟨_, hfindings, ⟨_, hnamed, hstops⟩ | ⟨_, hchanged, ⟨_, hnamed, hstops⟩ |
        ⟨_, hpolicy, _, hnamed, hstops⟩⟩⟩⟩⟩)
    · exact .settings hnamed hstops
    · exact .diff hsettings hstops
    · exact .findings hsettings hdiff hstops
    · exact .changedFiles hsettings hdiff hfindings hnamed hstops
    · exact .feedback hsettings hdiff hfindings hchanged hnamed hstops
    · exact .supplemental hsettings hdiff hfindings hchanged hpolicy hnamed hstops
  · intro h
    cases h with
    | settings hnamed hstops => exact Or.inl ⟨_, hnamed, hstops⟩
    | diff hsettings hstops => exact Or.inr ⟨_, hsettings, Or.inl hstops⟩
    | findings hsettings hdiff hstops =>
      exact Or.inr ⟨_, hsettings, Or.inr ⟨_, hdiff, Or.inl hstops⟩⟩
    | changedFiles hsettings hdiff hfindings hnamed hstops =>
      exact Or.inr ⟨_, hsettings, Or.inr ⟨_, hdiff, Or.inr ⟨_, hfindings,
        Or.inl ⟨_, hnamed, hstops⟩⟩⟩⟩
    | feedback hsettings hdiff hfindings hchanged hnamed hstops =>
      exact Or.inr ⟨_, hsettings, Or.inr ⟨_, hdiff, Or.inr ⟨_, hfindings,
        Or.inr ⟨_, hchanged, Or.inl ⟨_, hnamed, hstops⟩⟩⟩⟩⟩
    | supplemental hsettings hdiff hfindings hchanged hpolicy hnamed hstops =>
      exact Or.inr ⟨_, hsettings, Or.inr ⟨_, hdiff, Or.inr ⟨_, hfindings,
        Or.inr ⟨_, hchanged, Or.inr ⟨_, hpolicy, _, hnamed, hstops⟩⟩⟩⟩⟩

/-! ### The first command -/

/-- The first command. -/
def refineSpec [Nesting] : Spec := ⟨"refine-findings", refineUsage, refineCommand⟩

@[simp]
theorem lookup_refine [Nesting] : commands.lookup "refine" = some refineSpec := rfl

/-- Whether the first command breaks: its inputs stop their readers, or end the work on them. -/
inductive Breaks [Nesting] (files : Files) (o : Options) : Prop
  | inputs (stops : StopsInputs files o)
  | work {i : RefineInputs} (read : readRefineInputs files o = .ok i) (stops : i.StopsWork)

theorem outcome_eq_written_iff {spec : Spec} {doc : Value} :
    spec.outcome files o = .written doc ↔ spec.run files o = .ok doc := by
  unfold Spec.outcome
  cases spec.run files o with
  | ok v => simp
  | error e =>
    simp only [reduceCtorEq, iff_false]
    split_ifs <;> simp

theorem outcome_eq_broken_iff {spec : Spec} {e : InputError} :
    spec.outcome files o = .broken e ↔ spec.run files o = .error e ∧ e.IsFatal := by
  unfold Spec.outcome InputError.IsFatal
  cases spec.run files o with
  | ok v => simp
  | error e' =>
    simp only [Except.error.injEq]
    split_ifs with h
    · rw [Outcome.broken.injEq]
      constructor
      · rintro rfl
        exact ⟨rfl, h⟩
      · exact And.left
    · simp only [false_iff]
      rintro ⟨rfl, hfatal⟩
      exact h hfatal

/-- A command fails with a message that has its name in front, unless the fault ends it. -/
theorem exists_outcome_eq_failed_iff {spec : Spec} :
    (∃ message, spec.outcome files o = .failed (spec.name ++ ": " ++ message)) ↔
      ∃ e, spec.run files o = .error e ∧ ¬ e.IsFatal := by
  unfold Spec.outcome InputError.IsFatal
  cases spec.run files o with
  | ok v => simp
  | error e => cases h : e.isUnexpected <;> simp [h]

theorem refineCommand_eq_ok_iff [Nesting] {doc : Value} :
    refineCommand files o = .ok doc ↔
      ∃ i, readRefineInputs files o = .ok i ∧ i.document = .ok doc := by
  unfold refineCommand limited
  simp only [bind_eq_ok_iff, mapError_eq_ok_iff]

/-- An error that is reported comes from reading the inputs, as the work has no such errors. -/
theorem refineCommand_eq_error_iff [Nesting] {e : InputError} (hreported : ¬ e.IsFatal) :
    refineCommand files o = .error e ↔ readRefineInputs files o = .error e := by
  unfold refineCommand
  rw [bind_eq_error_iff, or_iff_left]
  rintro ⟨i, -, hlimited⟩
  obtain ⟨l, -, rfl⟩ := mapError_eq_error_iff.mp hlimited
  exact hreported rfl

/-- The first command writes a document with nothing too long in it, or fails with a message that
starts with its name, iff nothing breaks it. -/
theorem refine_handled_iff [Nesting] (files : Files) (o : Options) :
    ((∃ doc, refineSpec.outcome files o = .written doc ∧ Json.hasShortIntegers doc = true) ∨
      ∃ message, refineSpec.outcome files o = .failed ("refine-findings: " ++ message)) ↔
    ¬ Breaks files o := by
  have hwritten : ∀ doc, refineSpec.outcome files o = .written doc ↔
      ∃ i, readRefineInputs files o = .ok i ∧ i.document = .ok doc :=
    fun _ => outcome_eq_written_iff.trans refineCommand_eq_ok_iff
  have hfailed :
      (∃ message, refineSpec.outcome files o = .failed ("refine-findings: " ++ message)) ↔
        ∃ e, readRefineInputs files o = .error e ∧ ¬ e.IsFatal := by
    refine exists_outcome_eq_failed_iff.trans (exists_congr fun e => ?_)
    exact and_congr_left refineCommand_eq_error_iff
  -- What is reported comes from reading, so the work comes to a document or ends at once.
  rw [hfailed]
  simp only [hwritten]
  constructor
  · rintro (⟨doc, ⟨i, hread, hdoc⟩, hshort⟩ | ⟨e, hread, hreported⟩) hbreaks
    · cases hbreaks with
      | inputs stops =>
        rw [← isFatal_readRefineInputs_iff, hread] at stops
        exact not_failsWith_ok stops
      | work read stops =>
        obtain rfl := Except.ok.inj (hread.symm.trans read)
        exact RefineInputs.exists_document_iff.mp ⟨doc, hdoc, hshort⟩ stops
    · cases hbreaks with
      | inputs stops =>
        rw [← isFatal_readRefineInputs_iff, hread, failsWith_error_iff] at stops
        exact hreported stops
      | work read _ => exact absurd (hread.symm.trans read) (by simp)
  · intro hunbroken
    cases hread : readRefineInputs files o with
    | error e =>
      refine Or.inr ⟨e, rfl, fun hfatal => hunbroken (.inputs ?_)⟩
      exact isFatal_readRefineInputs_iff.mp ⟨e, hread, hfatal⟩
    | ok i =>
      obtain ⟨doc, hdoc, hshort⟩ :=
        RefineInputs.exists_document_iff.mpr fun hstops => hunbroken (.work hread hstops)
      exact Or.inl ⟨doc, ⟨i, rfl, hdoc⟩, hshort⟩

/-- A review without comments whose summary has a number for a list. -/
def numericConcernsReview : String :=
  "\x7b\"comments\": [], \"summary\": \x7b\"risk\": \"low\", \"key_concerns\": 5\x7d\x7d"

/-- A diff that adds two lines. -/
def twoLinesDiff : String :=
  "diff --git a/src/a.py b/src/a.py\n--- a/src/a.py\n+++ b/src/a.py\n" ++
    "@@ -1,2 +1,4 @@\n one\n+two\n+three\n four\n"

/-- The files with both. -/
def numericConcernsFiles : Files :=
  textFiles [("d.diff", twoLinesDiff), ("f.json", numericConcernsReview)]

/-- A number in the place of the key concerns ends the command at once. -/
theorem not_handled_of_numericConcerns :
    ¬ ((∃ doc, refineSpec.outcome numericConcernsFiles reviewOptions = .written doc ∧
        Json.hasShortIntegers doc = true) ∨
      ∃ message, refineSpec.outcome numericConcernsFiles reviewOptions =
        .failed ("refine-findings: " ++ message)) := by
  have hrun : (refineSpec.run numericConcernsFiles reviewOptions).map (fun _ => ()) =
      .error (.summary "f.json" .notWalkable) := by
    decide +kernel
  rw [outcome_eq_broken_iff.mpr ⟨map_eq_error_iff.mp hrun, rfl⟩]
  simp

end Command

end Triage
