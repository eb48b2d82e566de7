import Triage.Command.Basic
import Triage.Proofs.Command.Reviews
import Triage.Proofs.Json.Documents
import Triage.Proofs.Summary.Roundtrip

/-!
# The document of the first command

What the first command makes is a document that any reader takes (`isDocument_of_refineCommand`).
All of it has few brackets but a diagram, which stands no deeper in it than in the file that it
comes from.
-/

namespace Triage

open Json (IsDocument isDocument_record)

/-! ### Results -/

theorem isDocument_diagnostics (d : Diagnostics) : IsDocument 1 d.toValue :=
  isDocument_record (by simp)

theorem isDocument_optInt (depth : ℕ) (n : Option ℤ) : IsDocument depth (optInt n) := by
  cases n with
  | none => exact Json.isDocument_null depth
  | some n => exact Json.isDocument_int depth n

theorem isDocument_plan (p : CoveragePlan) : IsDocument 3 p.toValue := by
  have htargets : ∀ t : CoverageTarget, IsDocument 1 t.toValue := fun t =>
    isDocument_record (by simp [isDocument_optInt])
  have hlist : IsDocument 2 (.list (p.targets.map CoverageTarget.toValue)) := by
    refine .list fun v hv => ?_
    obtain ⟨t, -, rfl⟩ := List.mem_map.mp hv
    exact htargets t
  have hflat : IsDocument 1 p.stats.toValue := isDocument_record (by simp)
  have hstats : IsDocument 2 p.stats.toValue := hflat.mono (by decide)
  have hrisks : ∀ words : Risk → String,
      IsDocument 2 (.record (p.riskByPath.map fun q => (q.1, .text (words q.2)))) := by
    intro words
    refine isDocument_record fun q hq => ?_
    obtain ⟨r, -, rfl⟩ := List.mem_map.mp hq
    exact Json.isDocument_text ..
  exact isDocument_record (by simp [hlist, hstats, hrisks])

theorem isDocument_finding (f : Finding) : IsDocument 1 f.toValue := by
  refine isDocument_record ?_
  cases f.suggestedPatch with
  | none => cases f.confidence <;> simp
  | some patch => cases f.confidence <;> simp

theorem isDocument_comments (findings : List Finding) :
    IsDocument 2 (.list (findings.map Finding.toValue)) := by
  refine .list fun v hv => ?_
  obtain ⟨f, -, rfl⟩ := List.mem_map.mp hv
  exact isDocument_finding f

/-! ### Summaries -/

namespace RunSummary

/-- Whether the diagram of a summary, if there is one, is a document. -/
def DrawsWithin (depth : ℕ) (s : RunSummary) : Prop :=
  ∀ d, s.diagram = some d → IsDocument depth d

theorem DrawsWithin.merge {depth : ℕ} {s t : RunSummary} (hs : s.DrawsWithin depth)
    (ht : t.DrawsWithin depth) (cap : ℤ) : (s.merge t cap).DrawsWithin depth :=
  fun d hd => (diagram_merge hd).elim (hs d) (ht d)

/-- The diagram of a summary stands one bracket deeper than the document that it was read from. -/
theorem drawsWithin_of_ofValue {depth : ℕ} {v : Value} {s : RunSummary}
    (hv : IsDocument (depth + 1) v) (h : ofValue v = .ok s) : s.DrawsWithin depth := by
  unfold ofValue at h
  rw [ite_throw_eq_ok_iff] at h
  obtain ⟨-, h⟩ := h
  split at h
  · exact absurd h throw_ne_ok
  · simp only [bind_eq_ok_iff, pure_eq_ok_iff] at h
    obtain ⟨_, -, _, -, _, -, _, -, _, -, rfl⟩ := h
    intro d hd
    obtain ⟨w, hw, hvoid⟩ := Option.bind_eq_some_iff.mp hd
    unfold Value.unlessVoid at hvoid
    split_ifs at hvoid
    obtain rfl := Option.some.inj hvoid
    exact hv.field (Option.filter_eq_some_iff.mp hw).1

theorem isDocument_toValue {depth : ℕ} (hdepth : 2 ≤ depth) {s : RunSummary}
    (h : s.DrawsWithin depth) : IsDocument (depth + 1) s.toValue := by
  have htexts : ∀ texts : List String, IsDocument depth (.list (texts.map .text)) := by
    intro texts
    have hflat : IsDocument 1 (.list (texts.map .text)) := by
      refine .list fun v hv => ?_
      obtain ⟨t, -, rfl⟩ := List.mem_map.mp hv
      exact Json.isDocument_text ..
    exact hflat.mono (by omega)
  have hnote : ∀ n : FileNote, IsDocument 1 n.toValue := by
    intro n
    refine isDocument_record ?_
    cases n.risk <;> simp
  have hnotes : IsDocument depth (.list (s.fileNotes.map FileNote.toValue)) := by
    have hflat : IsDocument 2 (.list (s.fileNotes.map FileNote.toValue)) := by
      refine .list fun v hv => ?_
      obtain ⟨n, -, rfl⟩ := List.mem_map.mp hv
      exact hnote n
    exact hflat.mono (by omega)
  refine isDocument_record ?_
  cases hd : s.diagram with
  | none => cases s.confidence <;> simp [htexts, hnotes]
  | some d => cases s.confidence <;> simp [htexts, hnotes, h d hd]

end RunSummary

/-! ### Inputs -/

namespace Command

theorem isDocument_of_readDocument [Nesting] {files : Files} {file : String} {v : Value}
    (h : readDocument files file = .ok v) : IsDocument Nesting.brackets v := by
  obtain ⟨text, -, hread⟩ := bind_eq_ok_iff.mp h
  exact Json.isDocument_of_read (mapError_eq_ok_iff.mp hread)

/-- The brackets inside which the document of the first command has a summary's diagram. -/
def diagramDepth [Nesting] : ℕ := Nesting.brackets - 2

theorem two_le_diagramDepth [Nesting] : 2 ≤ diagramDepth :=
  Nat.le_sub_of_add_le Nesting.four_le_brackets

theorem diagramDepth_add_two [Nesting] : diagramDepth + 2 = Nesting.brackets :=
  Nat.sub_add_cancel (Nat.le_trans (by decide) Nesting.four_le_brackets)

/-- The diagram in a review stands two brackets deep. -/
theorem drawsWithin_of_readReview [Nesting] {files : Files} {file : String} {comments : List Value}
    {s : RunSummary} (h : readReview files file = .ok (comments, some s)) :
    s.DrawsWithin diagramDepth := by
  obtain ⟨v, hv, -, hsummary⟩ := readReview_eq_ok_iff.mp h
  have hdocument : IsDocument (diagramDepth + 2) v :=
    diagramDepth_add_two ▸ isDocument_of_readDocument hv
  unfold summary? at hsummary
  split at hsummary
  · exact absurd hsummary (by simp)
  · rename_i w hw
    have hfield : IsDocument (diagramDepth + 1) w :=
      hdocument.field (Option.filter_eq_some_iff.mp hw).1
    obtain ⟨t, ht, heq⟩ := exists_ok_of_map_eq_ok hsummary
    obtain rfl := Option.some.inj heq
    exact RunSummary.drawsWithin_of_ofValue hfield ht

/-- Whether the summaries in inputs may be written again. -/
structure RefineInputs.DrawsWithin (depth : ℕ) (i : RefineInputs) : Prop where
  summary : ∀ s, i.summary = some s → s.DrawsWithin depth
  supplemental : ∀ comments s, i.supplemental = some (comments, some s) → s.DrawsWithin depth

theorem drawsWithin_of_readRefineInputs [Nesting] {files : Files} {o : Options} {i : RefineInputs}
    (h : readRefineInputs files o = .ok i) : i.DrawsWithin diagramDepth := by
  obtain ⟨-, -, hreview, -, -, hextra⟩ := readRefineInputs_eq_ok_iff.mp h
  constructor
  · intro s hs
    rw [hs] at hreview
    exact drawsWithin_of_readReview hreview
  · intro comments s hs
    unfold readExtra at hextra
    split at hextra
    · exact absurd (hs.symm.trans (Except.ok.inj hextra).symm) (by simp)
    · obtain ⟨extra, hread, heq⟩ := exists_ok_of_map_eq_ok hextra
      rw [hs] at heq
      obtain rfl := Option.some.inj heq
      exact drawsWithin_of_readReview hread

/-! ### The document -/

namespace RefineInputs

variable {i : RefineInputs} {base : Refined} {findings : List Finding}
  {fields : List (String × Value)} {summary : Option RunSummary} {doc : Value}

/-- What a second pass leads to: nothing if there is none. -/
theorem withSupplement_cases (h : i.withSupplement base = .ok (findings, fields, summary)) :
    (i.supplemental = none ∧ findings = base.findings ∧ fields = [] ∧ summary = i.summary) ∨
    ∃ comments extraSummary extra merged,
      i.supplemental = some (comments, extraSummary) ∧ i.refined comments = .ok extra ∧
      supplement base.findings (extra.findings.map .finding) = .ok merged ∧
      findings = merged.findings ∧
      fields = [("supplemental",
        .record (("diagnostics", extra.diagnostics.toValue) :: merged.counts))] ∧
      summary = mergeSummaries i.settings.limits.maxKeyConcerns i.summary extraSummary := by
  unfold withSupplement at h
  split at h
  · rename_i hnone
    obtain ⟨rfl, rfl, rfl⟩ : base.findings = findings ∧ [] = fields ∧ i.summary = summary := by
      simpa using h
    exact Or.inl ⟨hnone, rfl, rfl, rfl⟩
  · rename_i comments extraSummary hsome
    simp only [bind_eq_ok_iff, pure_eq_ok_iff, Prod.mk.injEq] at h
    obtain ⟨extra, hextra, merged, hmerged, rfl, rfl, rfl⟩ := h
    exact Or.inr ⟨comments, extraSummary, extra, merged, hsome, hextra, hmerged, rfl, rfl, rfl⟩

/-- The fields of the document of the first command. -/
def documentFields (base : Refined) (plan : CoveragePlan) (findings : List Finding)
    (fields : List (String × Value)) (summary : Option RunSummary) : List (String × Value) :=
  [("diagnostics", base.diagnostics.toValue), ("coverage", plan.toValue)] ++ fields ++
    [("comments", .list (findings.map Finding.toValue))] ++
    (summary.map fun s => ("summary", s.toValue)).toList

theorem document_eq_ok_iff :
    i.document = .ok doc ↔
      ∃ base plan findings fields summary, i.refined i.comments = .ok base ∧
        coveragePlan i.changedFiles base.findings i.settings.limits.maxCoverageTargets = .ok plan ∧
        i.withSupplement base = .ok (findings, fields, summary) ∧
        doc = .record (documentFields base plan findings fields summary) := by
  unfold document
  simp only [bind_eq_ok_iff, pure_eq_ok_iff, Prod.exists]
  constructor
  · rintro ⟨base, hbase, plan, hplan, findings, fields, summary, hextra, rfl⟩
    exact ⟨base, plan, findings, fields, summary, hbase, hplan, hextra, rfl⟩
  · rintro ⟨base, plan, findings, fields, summary, hbase, hplan, hextra, rfl⟩
    exact ⟨base, hbase, plan, hplan, findings, fields, summary, hextra, rfl⟩

theorem isDocument_fields (h : i.withSupplement base = .ok (findings, fields, summary)) :
    ∀ p ∈ fields, IsDocument 2 p.2 := by
  rcases withSupplement_cases h with ⟨-, -, rfl, -⟩ |
    ⟨_, _, extra, merged, -, -, -, -, rfl, -⟩
  · simp
  · refine List.forall_mem_singleton.mpr (isDocument_record ?_)
    simp [Supplemented.counts, isDocument_diagnostics]

theorem drawsWithin_of_withSupplement {depth : ℕ} (hi : i.DrawsWithin depth)
    (h : i.withSupplement base = .ok (findings, fields, summary)) :
    ∀ s, summary = some s → s.DrawsWithin depth := by
  rcases withSupplement_cases h with ⟨-, -, -, rfl⟩ |
    ⟨comments, extraSummary, _, _, hextra, -, -, -, -, rfl⟩
  · exact hi.summary
  · intro s hs
    -- With one summary its diagram is the only one, with two it is that of either.
    cases hfirst : i.summary with
    | none =>
      rw [hfirst] at hs
      exact hi.supplemental comments s (hextra.trans (congrArg (fun x => some (comments, x)) hs))
    | some a => cases extraSummary with
      | none =>
        rw [hfirst] at hs
        exact hi.summary s (hfirst.trans hs)
      | some b =>
        rw [hfirst] at hs
        obtain rfl := Option.some.inj hs
        exact (hi.summary a hfirst).merge (hi.supplemental comments b hextra) _

theorem isDocument_document [Nesting] (hi : i.DrawsWithin diagramDepth) (h : i.document = .ok doc) :
    IsDocument Nesting.brackets doc := by
  obtain ⟨base, plan, findings, fields, summary, -, -, hextra, rfl⟩ := document_eq_ok_iff.mp h
  -- No part but the summary has more than three brackets inside one another.
  have hsmall : ∀ {depth : ℕ} {v : Value}, depth ≤ 3 → IsDocument depth v →
      IsDocument (diagramDepth + 1) v :=
    fun hle hv => hv.mono (Nat.le_trans hle (Nat.succ_le_succ two_le_diagramDepth))
  have hhead : ∀ p ∈ [("diagnostics", base.diagnostics.toValue), ("coverage", plan.toValue)],
      IsDocument (diagramDepth + 1) p.2 :=
    List.forall_mem_cons.mpr ⟨hsmall (by decide) (isDocument_diagnostics _),
      List.forall_mem_singleton.mpr (hsmall (by decide) (isDocument_plan plan))⟩
  have hfields : ∀ p ∈ fields, IsDocument (diagramDepth + 1) p.2 :=
    fun p hp => hsmall (by decide) (isDocument_fields hextra p hp)
  have hcomments : ∀ p ∈ [("comments", Value.list (findings.map Finding.toValue))],
      IsDocument (diagramDepth + 1) p.2 :=
    List.forall_mem_singleton.mpr (hsmall (by decide) (isDocument_comments findings))
  have hsummary : ∀ p ∈ (summary.map fun s => ("summary", s.toValue)).toList,
      IsDocument (diagramDepth + 1) p.2 := by
    cases summary with
    | none => simp
    | some s =>
      exact List.forall_mem_singleton.mpr (RunSummary.isDocument_toValue two_le_diagramDepth
        (drawsWithin_of_withSupplement hi hextra s rfl))
  rw [← diagramDepth_add_two]
  exact isDocument_record (List.forall_mem_append.mpr
    ⟨List.forall_mem_append.mpr ⟨List.forall_mem_append.mpr ⟨hhead, hfields⟩, hcomments⟩,
      hsummary⟩)

end RefineInputs

/-- What the first command makes is a document. -/
theorem isDocument_of_refineCommand [Nesting] {files : Files} {o : Options} {doc : Value}
    (h : refineCommand files o = .ok doc) : IsDocument Nesting.brackets doc := by
  obtain ⟨i, hi, hdoc⟩ := bind_eq_ok_iff.mp h
  exact RefineInputs.isDocument_document (drawsWithin_of_readRefineInputs hi)
    (mapError_eq_ok_iff.mp hdoc)

end Command

end Triage
