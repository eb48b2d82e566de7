import Triage.Proofs.Refinement.Idempotence

/-!
# What is shown of a review

The findings of a refinement can be shown as they are (`IsPresentable`), and no two of them say the
same (`presentable_of_refine`). Each stage after the screening leaves the screened findings alone,
and numbers behind ids and keys change nothing that is asked here.
-/

namespace Triage

variable {drafts : List Draft} {index : DiffIndex} {files : List ChangedFile} {o : RefineOptions}

namespace Finding

/-- Whether a finding may be shown as it is: it has the weight and the place that it is entitled to,
says something, and is not to be left out. -/
structure IsPresentable (index : DiffIndex) (o : RefineOptions) (f : Finding) : Prop where
  patched : f.severity = .blocking → ∃ patch, f.suggestedPatch = some patch ∧ patch ≠ ""
  capped : f.category = .style → f.severity = .nit
  anchored : f.commentType = .inline → index.hasLine f.anchor = true
  allowed : f.commentType = .inline →
    o.summaryOnly = false ∧ ∀ types, o.allowedTypes = some types → .inline ∈ types
  title : Text.isMeaningful f.title = true
  body : Text.isMeaningful f.body = true
  evidence : Text.isMeaningful f.evidence = true
  accepted : ∀ pattern ∈ o.ignore, Glob.accepts pattern f.path = false

theorem exists_patch_of_hasPatch {f : Finding} (h : f.hasPatch = true) :
    ∃ patch, f.suggestedPatch = some patch ∧ patch ≠ "" := by
  unfold hasPatch at h
  rw [Option.any_eq_true] at h
  obtain ⟨patch, hpatch, hne⟩ := h
  exact ⟨patch, hpatch, of_decide_eq_true hne⟩

theorem isMeaningful_iff {f : Finding} :
    f.isMeaningful = true ↔ Text.isMeaningful f.title = true ∧ Text.isMeaningful f.body = true ∧
      Text.isMeaningful f.evidence = true := by
  unfold isMeaningful
  rw [Bool.and_eq_true, Bool.and_eq_true, and_assoc]

/-- A finding that stays on its line may be there. -/
theorem IsSettled.stays {f : Finding} (h : f.IsSettled index o)
    (hinline : f.commentType = .inline) :
    o.forcesSummary = false ∧ index.hasLine f.anchor = true := by
  have hleaves := h.leaves
  unfold leavesLine isSummary at hleaves
  rw [hinline] at hleaves
  simpa using hleaves

end Finding

theorem RefineOptions.forcesSummary_eq_false_iff (o : RefineOptions) :
    o.forcesSummary = false ↔
      o.summaryOnly = false ∧ ∀ types, o.allowedTypes = some types → .inline ∈ types := by
  unfold RefineOptions.forcesSummary
  rw [Bool.or_eq_false_iff]
  cases o.allowedTypes with
  | none => simp
  | some types => simp

/-- What passed the screening may be shown. -/
theorem Ranked.IsScreened.isPresentable {paths : List String} {item : Ranked}
    (h : item.IsScreened index paths o) : item.finding.IsPresentable index o where
  patched := by
    intro hblocking
    apply Finding.exists_patch_of_hasPatch
    have hblocks := h.settled.blocks
    unfold Finding.blocksWithoutPatch at hblocks
    simpa [hblocking] using hblocks
  capped := by
    intro hstyle
    have hcap := Finding.capStyle_eq_self_iff.mp h.settled.capStyle
    by_contra hseverity
    exact hcap ⟨hstyle, hseverity⟩
  anchored := fun hinline => (h.settled.stays hinline).2
  allowed := fun hinline => o.forcesSummary_eq_false_iff.mp (h.settled.stays hinline).1
  title := (Finding.isMeaningful_iff.mp h.meaningful).1
  body := (Finding.isMeaningful_iff.mp h.meaningful).2.1
  evidence := (Finding.isMeaningful_iff.mp h.meaningful).2.2
  accepted := by
    intro pattern hpattern
    have haccepted := h.accepted
    unfold Glob.anyAccepts at haccepted
    rw [List.any_eq_false] at haccepted
    exact Bool.eq_false_iff.mpr (haccepted pattern hpattern)

theorem Finding.IsPresentable.numbered {f g : Finding} (h : f.IsPresentable index o)
    (hg : f.IsNumbered g) : g.IsPresentable index o := by
  obtain ⟨j, k, rfl⟩ := hg
  exact { h with }

/-- The findings of a refinement may be shown as they are, and no two of them say the same. -/
theorem presentable_of_refine {r : Refined} (h : refine drafts index files o = .ok r) :
    (∀ f ∈ r.findings, f.IsPresentable index o) ∧ (r.findings.map Finding.dedupeKey).Nodup := by
  obtain ⟨-, outcomes, houtcomes, rfl⟩ := refine_eq_ok_iff.mp h
  constructor
  · intro f hf
    obtain ⟨item, hitem, hnumbered⟩ := exists_mem_left (forall₂_findings_ofOutcomes o outcomes) hf
    have hscreened := isScreened_of_mem_shownItems houtcomes hitem
    exact hscreened.isPresentable.numbered hnumbered
  · have hkeys := map_findings_ofOutcomes (g := Finding.dedupeKey) (fun _ => rfl) o outcomes
    rw [hkeys]
    exact (areSettled_shownItems o outcomes).nodup

/-- A diff that adds two lines to a file. -/
def twoLines : DiffIndex :=
  .ofSections [⟨"a/src/a.py", "b/src/a.py", [⟨1, 1, [⟨.normal, "one"⟩, ⟨.add, "two"⟩,
    ⟨.add, "three"⟩]⟩]⟩]

/-- Remarks that may not be shown as they are: one that blocks without a patch, a grave one of style
on a line that is not in the diff, one that says nothing, one on a path to leave out, and one that
is repeated. -/
def unruly : List Draft :=
  [.finding { remark "a" "one" 2 with severity := .blocking },
    .finding { remark "b" "two" 9 with category := .style },
    .finding { remark "c" "three" 3 with body := " n/a " },
    .finding { remark "d" "four" 3 with path := "dist/a.py" },
    .finding (remark "e" "One" 2)]

/-- What is left of the unruly remarks may be shown. -/
theorem presentable_of_unruly :
    ∃ r, refine unruly twoLines [] { RefineOptions.default with ignore := ["dist/*"] } = .ok r ∧
      r.diagnostics.droppedIgnored = 1 ∧ r.diagnostics.droppedEmpty = 1 ∧
      r.diagnostics.deduplicated = 1 ∧ r.diagnostics.convertedToSummary = 1 ∧
      r.diagnostics.downgradedBlocking = 1 ∧
      (∀ f ∈ r.findings,
        f.IsPresentable twoLines { RefineOptions.default with ignore := ["dist/*"] }) ∧
      (r.findings.map Finding.dedupeKey).Nodup := by
  have hcounts : (refine unruly twoLines []
      { RefineOptions.default with ignore := ["dist/*"] }).map (fun r =>
        (r.diagnostics.droppedIgnored, r.diagnostics.droppedEmpty, r.diagnostics.deduplicated,
          r.diagnostics.convertedToSummary, r.diagnostics.downgradedBlocking)) =
      .ok (1, 1, 1, 1, 1) := by
    decide +kernel
  obtain ⟨r, hr, hr'⟩ := exists_ok_of_map_eq_ok hcounts
  simp only [Prod.mk.injEq] at hr'
  obtain ⟨hignored, hempty, hrepeated, hconverted, hdowngraded⟩ := hr'
  obtain ⟨hfindings, hkeys⟩ := presentable_of_refine hr
  exact ⟨r, hr, hignored, hempty, hrepeated, hconverted, hdowngraded, hfindings, hkeys⟩

end Triage
