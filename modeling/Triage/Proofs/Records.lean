import Triage.Proofs.Command.Documents
import Triage.Proofs.Command.Texts
import Triage.Proofs.Json.Records
import Triage.Proofs.Refinement.Presentation
import Triage.Proofs.Supplement.Extension

/-!
# Records that are written and read back

A finding survives being written and read back iff its line counts from one, and no later stage
changes lines. So the second command reads just the findings that the first one wrote
(`readFindings_of_holds`), and all findings and summaries that come from readers survive
(`records_survive`).
-/

namespace Triage

/-! ### Findings of later stages -/

namespace Finding

theorem Survives.of_line_eq {f g : Finding} (h : f.Survives) (hline : g.line = f.line) :
    g.Survives := by
  rw [survives_iff] at h ⊢
  rwa [hline]

theorem survives_of_ofValue {v : Value} {f : Finding} (h : ofValue v = .ok f) : f.Survives :=
  survives_iff.mpr (one_le_line h)

theorem line_canonical (f : Finding) : f.canonical.line = f.line := by
  unfold canonical tidied
  rfl

theorem line_shown {index : DiffIndex} {o : RefineOptions} (f : Finding) :
    (f.shown index o).line = f.line := by
  rw [shown_eq]

end Finding

/-- Whether what was handed in survives, if it is a finding and not a document. -/
def Draft.IsSound (d : Draft) : Prop :=
  ∀ f, d = .finding f → f.Survives

theorem Draft.IsSound.survives {d : Draft} (h : d.IsSound) {f : Finding} (hread : d.read = .ok f) :
    f.Survives := by
  cases d with
  | document v => exact Finding.survives_of_ofValue hread
  | finding g =>
    obtain rfl := Except.ok.inj hread
    exact h g rfl

theorem survives_of_suffixRepeats {findings : List Finding} (h : ∀ f ∈ findings, f.Survives) :
    ∀ f ∈ suffixRepeats findings, f.Survives := by
  intro f hf
  obtain ⟨g, hg, j, k, rfl⟩ := exists_mem_left (forall₂_suffixRepeats findings) hf
  exact (h g hg).of_line_eq rfl

theorem survives_of_refine {drafts : List Draft} {index : DiffIndex} {files : List ChangedFile}
    {o : RefineOptions} {r : Refined} (hdrafts : ∀ d ∈ drafts, d.IsSound)
    (hr : refine drafts index files o = .ok r) : ∀ f ∈ r.findings, f.Survives := by
  intro f hf
  obtain ⟨d, hd, g, hread, j, k, rfl⟩ := exists_draft_of_mem_findings hr hf
  have hline : (g.canonical.shown index o).line = g.line := by
    rw [Finding.line_shown, Finding.line_canonical]
  exact ((hdrafts d hd).survives hread).of_line_eq hline

theorem survives_of_supplement {base : List Finding} {supplemental : List Draft}
    {r : Supplemented} (hbase : ∀ f ∈ base, f.Survives) (hdrafts : ∀ d ∈ supplemental, d.IsSound)
    (hr : supplement base supplemental = .ok r) : ∀ f ∈ r.findings, f.Survives := by
  obtain ⟨-, outcomes, hjudged, rfl⟩ := supplement_eq_ok_iff_areJudged.mp hr
  apply survives_of_suffixRepeats
  intro f hf
  -- A finding stands in the first pass, or was added for a draft.
  rcases List.mem_append.mp hf with hf | hf
  · exact hbase f hf
  · obtain ⟨d, hd, hcanonical⟩ := List.mem_filterMap.mp (hjudged.sublist.subset hf)
    cases hread : d.read with
    | error e =>
      rw [Draft.canonical?, hread] at hcanonical
      exact absurd hcanonical (by simp [Except.toOption])
    | ok g =>
      rw [Draft.canonical?, hread] at hcanonical
      obtain rfl : g.canonical = f := Option.some.inj hcanonical
      exact ((hdrafts d hd).survives hread).of_line_eq g.line_canonical

/-! ### The first command and the second one -/

namespace Command

theorem survives_of_refined {i : RefineInputs} {raw : List Value} {r : Refined}
    (h : i.refined raw = .ok r) : ∀ f ∈ r.findings, f.Survives := by
  refine survives_of_refine ?_ h
  intro d hd f hf
  obtain ⟨v, -, rfl⟩ := List.mem_map.mp hd
  exact absurd hf (by simp)

/-- The comments of a document of the first command are findings that survive, and are read back
with it. -/
theorem exists_comments_of_document {i : RefineInputs} {doc : Value}
    (h : i.document = .ok doc) :
    ∃ findings : List Finding,
      doc.field? "comments" = some (.list (findings.map Finding.toValue)) ∧
      comments? (Json.reread doc) = some (findings.map Finding.toValue) ∧
      ∀ f ∈ findings, f.Survives := by
  obtain ⟨base, plan, findings, fields, summary, hbase, -, hextra, rfl⟩ :=
    RefineInputs.document_eq_ok_iff.mp h
  -- The names of the fields are distinct, with a second pass or without one.
  have hparts :
      ((RefineInputs.documentFields base plan findings fields summary).map Prod.fst).Nodup ∧
      (Value.record (RefineInputs.documentFields base plan findings fields summary)).field?
        "comments" = some (.list (findings.map Finding.toValue)) ∧
      ∀ f ∈ findings, f.Survives := by
    unfold RefineInputs.documentFields
    rcases RefineInputs.withSupplement_cases hextra with ⟨-, rfl, rfl, -⟩ |
      ⟨_, _, extra, merged, -, hsecond, hmerged, rfl, rfl, -⟩
    · refine ⟨?_, by simp, survives_of_refined hbase⟩
      cases summary <;> simp
    · refine ⟨?_, by simp, survives_of_supplement (survives_of_refined hbase) ?_ hmerged⟩
      · cases summary <;> simp
      · intro d hd f hf
        obtain ⟨g, hg, rfl⟩ := List.mem_map.mp hd
        obtain rfl := Draft.finding.inj hf
        exact survives_of_refined hsecond g hg
  obtain ⟨hnames, hfield, hsurvive⟩ := hparts
  refine ⟨findings, hfield, comments?_of_field? ?_, hsurvive⟩
  rw [Json.field?_reread_record hnames hfield, Json.reread_comments]

/-- The second command reads from a file just the findings that the first one wrote to it. -/
theorem readFindings_of_holds [Nesting] {inputs files : Files} {o : Options} {doc : Value}
    {file : String} (h : refineCommand inputs o = .ok doc)
    (hshort : Json.hasShortIntegers doc = true) (hfile : Holds files file (render doc)) :
    ∃ findings : List Finding,
      doc.field? "comments" = some (.list (findings.map Finding.toValue)) ∧
      readFindings files file = .ok findings := by
  obtain ⟨i, -, hlimited⟩ := bind_eq_ok_iff.mp h
  obtain ⟨findings, hfield, hcomments, hsurvive⟩ :=
    exists_comments_of_document (mapError_eq_ok_iff.mp hlimited)
  refine ⟨findings, hfield, readFindings_eq_ok_iff.mpr ⟨_, _, ?_, hcomments, ?_⟩⟩
  · exact readDocument_of_holds hfile (isDocument_of_refineCommand h) hshort
  · rw [mapM_eq_ok_iff, List.forall₂_map_left_iff, List.forall₂_same]
    exact hsurvive

end Command

/-! ### All records -/

open Command in
/-- Every finding that is read from a value of JSON survives, and so does every one in the result of
a later stage; the second command reads just the findings in a document that the first one wrote;
and every summary survives that is read or merged from such. -/
theorem records_survive [Nesting] :
    (∀ depth v, Json.IsDocument depth v → Json.hasShortIntegers v = true →
      (∃ e, Finding.ofValue v = .error e) ∨
      ∃ f, Finding.ofValue v = .ok f ∧ 1 ≤ f.line ∧ f.Survives) ∧
    (∀ drafts index files o r, (∀ d ∈ drafts, d.IsSound) →
      refine drafts index files o = .ok r → ∀ f ∈ r.findings, f.Survives) ∧
    (∀ base supplemental r, (∀ f ∈ base, f.Survives) → (∀ d ∈ supplemental, d.IsSound) →
      supplement base supplemental = .ok r → ∀ f ∈ r.findings, f.Survives) ∧
    (∀ inputs o doc files file, refineCommand inputs o = .ok doc →
      Json.hasShortIntegers doc = true → Holds files file (render doc) →
      ∃ findings : List Finding,
        doc.field? "comments" = some (.list (findings.map Finding.toValue)) ∧
        readFindings files file = .ok findings) ∧
    (∀ v s, RunSummary.ofValue v = .ok s → s.Survives) ∧
    ∀ s t : RunSummary, s.Survives → t.Survives → ∀ cap, (s.merge t cap).Survives := by
  refine ⟨?_, ?_, ?_, ?_, ?_, ?_⟩
  · intro _ v _ _
    cases h : Finding.ofValue v with
    | error e => exact Or.inl ⟨e, rfl⟩
    | ok f => exact Or.inr ⟨f, rfl, Finding.one_le_line h, Finding.survives_of_ofValue h⟩
  · intro drafts index files o r hdrafts hr
    exact survives_of_refine hdrafts hr
  · intro base supplemental r hbase hdrafts hr
    exact survives_of_supplement hbase hdrafts hr
  · intro inputs o doc files file h hshort hfile
    exact readFindings_of_holds h hshort hfile
  · intro v s h
    exact RunSummary.survives_iff.mpr (RunSummary.hasDiagram_of_ofValue h)
  · intro s t hs ht cap
    rw [RunSummary.survives_iff] at hs ht ⊢
    exact hs.merge ht cap

/-- A diff of one line. -/
def oneLineDiff : String := "--- a/x.py\n+++ b/x.py\n@@ -1 +1 @@\n-one\n+two\n"

/-- A review with one remark. -/
def oneRemarkReview : String :=
  "[\x7b\"id\": \"a\", \"key\": \"a\", \"path\": \"x.py\", \"line\": 1, \"severity\": \"nit\"," ++
    "\"category\": \"bug\", \"title\": \"the name\", \"body\": \"it has no use\"," ++
    "\"evidence\": \"one\"\x7d]"

/-- The files with both. -/
def oneRemarkFiles : Command.Files :=
  Command.textFiles [("d.diff", oneLineDiff), ("f.json", oneRemarkReview)]

/-- A summary without a diagram. -/
def calmSummary : Value := .record [("risk", .text "low"), ("confidence", .int 1)]

open Command in
/-- One remark survives being read, a refinement, a second pass, and the file between both
commands. -/
theorem records_survive_oneRemark :
    (∃ f, Finding.ofValue (remark "a" "one" 2).toValue = .ok f ∧ 1 ≤ f.line ∧ f.Survives) ∧
    ∃ r merged doc findings s,
      refine [.finding (remark "a" "one" 2)] twoLines [] .default = .ok r ∧
      (∀ f ∈ r.findings, f.Survives) ∧
      supplement [remark "a" "one" 2] [.finding (remark "b" "two" 9)] = .ok merged ∧
      (∀ f ∈ merged.findings, f.Survives) ∧
      refineCommand oneRemarkFiles reviewOptions = .ok doc ∧
      readFindings (textFiles [("r.json", render doc)]) "r.json" = .ok findings ∧
      RunSummary.ofValue calmSummary = .ok s ∧ s.Survives ∧ (s.merge s 5).Survives := by
  obtain ⟨hvalue, hrefine, hsupplement, hcommands, hread, hmerge⟩ := records_survive
  have hsurvive : ∀ identity title, ∀ line ≥ 1, (remark identity title line).Survives :=
    fun _ _ _ hline => Finding.survives_iff.mpr hline
  have hsound : ∀ f, f.Survives → ∀ d ∈ [Draft.finding f], d.IsSound := by
    intro f hf d hd g hg
    obtain rfl := List.mem_singleton.mp hd
    obtain rfl := Draft.finding.inj hg
    exact hf
  have hrefined : (refine [.finding (remark "a" "one" 2)] twoLines [] .default).map
      (fun r => r.diagnostics.deduplicated) = .ok 0 := by
    decide +kernel
  have hmerged : (supplement [remark "a" "one" 2] [.finding (remark "b" "two" 9)]).map
      Supplemented.added = .ok 1 := by
    decide +kernel
  have hwritten : (refineCommand oneRemarkFiles reviewOptions).map Json.hasShortIntegers =
      .ok true := by
    decide +kernel
  have hcalm : (RunSummary.ofValue calmSummary).map RunSummary.risk = .ok .low := by
    decide +kernel
  obtain ⟨r, hr, -⟩ := exists_ok_of_map_eq_ok hrefined
  obtain ⟨merged, hmerged, -⟩ := exists_ok_of_map_eq_ok hmerged
  obtain ⟨doc, hdoc, hshort⟩ := exists_ok_of_map_eq_ok hwritten
  obtain ⟨s, hs, -⟩ := exists_ok_of_map_eq_ok hcalm
  obtain ⟨findings, -, hfindings⟩ := hcommands oneRemarkFiles reviewOptions doc
    (textFiles [("r.json", render doc)]) "r.json" hdoc hshort (holds_textFiles (by simp))
  have hcalmSurvives := hread calmSummary s hs
  have hvalid : (Finding.ofValue (remark "a" "one" 2).toValue).map Finding.line = .ok 2 := by
    decide +kernel
  obtain ⟨f, hf, -⟩ := exists_ok_of_map_eq_ok hvalid
  have hfound := hvalue 1 (remark "a" "one" 2).toValue (isDocument_finding _) (by decide +kernel)
  refine ⟨hfound.resolve_left (by simp [hf]), r, merged, doc, findings, s, hr, ?_, hmerged, ?_,
    hdoc, hfindings, hs, hcalmSurvives, hmerge s s hcalmSurvives hcalmSurvives 5⟩
  · exact hrefine _ _ _ _ r (hsound _ (hsurvive "a" "one" 2 (by decide))) hr
  · exact hsupplement _ _ merged
      (List.forall_mem_singleton.mpr (hsurvive "a" "one" 2 (by decide)))
      (hsound _ (hsurvive "b" "two" 9 (by decide))) hmerged

end Triage
