import Triage.Proofs.Guards
import Triage.Proofs.Refinement.Presentation
import Triage.Settings.Reading

/-!
# Kinds of comment and the settings

A finding is shown as a comment in the summary iff the settings leave it no other place, or it came
as one, or its line is not in the diff (`isSummary_shown_iff`). Settings that were read allow some
kind of comment (`allowedTypes_ne_nil`), so a finding of another kind than the allowed ones is one
of the summary, for one of these reasons (`allowed_of_refine`).
-/

namespace Triage

variable {drafts : List Draft} {index : DiffIndex} {files : List ChangedFile} {o : RefineOptions}

/-! ### Settings that were read -/

theorem readTypes_ne_nil {items : List Value} {place : ℕ} {known types : List CommentType}
    (h : readTypes place known items = .ok types) (hne : known ≠ [] ∨ items ≠ []) :
    types ≠ [] := by
  induction items generalizing place known with
  | nil =>
    obtain rfl := Except.ok.inj h
    simpa using hne
  | cons v rest ih =>
    rw [readTypes] at h
    cases hword : v.text?.bind (Vocabulary.ofWord? (α := CommentType)) with
    | none =>
      rw [hword] at h
      exact absurd h (by simp)
    | some t =>
      rw [hword] at h
      -- The kind that was read is known from here on.
      apply ih h
      left
      split_ifs with hknown
      · exact List.ne_nil_of_mem hknown
      · simp

theorem readAllowedTypes_ne_nil {v : Option Value} {types : List CommentType}
    (h : readAllowedTypes v = .ok types) : types ≠ [] := by
  obtain ⟨table, -, htable⟩ := bind_eq_ok_iff.mp h
  have hall : [CommentType.inline, .summary] ≠ [] := List.cons_ne_nil _ _
  cases table with
  | none =>
    obtain rfl := Except.ok.inj htable
    exact hall
  | some w =>
    simp only at htable
    split at htable
    · obtain rfl := Except.ok.inj htable
      exact hall
    · exact absurd htable throw_ne_ok
    · rename_i items hitems _
      exact readTypes_ne_nil htable (Or.inr hitems)
    · exact absurd htable throw_ne_ok

/-- Settings that were read allow some kind of comment. -/
theorem allowedTypes_ne_nil {v : Value} {s : Settings} (h : Settings.ofValue v = .ok s) :
    s.allowedTypes ≠ [] := by
  unfold Settings.ofValue at h
  split_ifs at h
  · obtain rfl := Except.ok.inj h
    exact List.cons_ne_nil _ _
  · simp only [bind_eq_ok_iff, pure_eq_ok_iff] at h
    obtain ⟨_, -, _, -, _, -, types, htypes, _, -, rfl⟩ := h
    exact readAllowedTypes_ne_nil htypes
  · exact absurd h throw_ne_ok

/-! ### What is shown in the summary -/

namespace Finding

theorem isSummary_iff {f : Finding} : f.isSummary = true ↔ f.commentType = .summary := by
  unfold isSummary
  rw [decide_eq_true_iff]

/-- A finding goes into the summary if it came for it, or may not be on its line. -/
theorem isSummary_shown_iff (f : Finding) :
    (f.shown index o).isSummary = true ↔
      f.commentType = .summary ∨ o.forcesSummary = true ∨ index.hasLine f.anchor = false := by
  have hlowered : f.lowered.isSummary = f.isSummary ∧ f.lowered.anchor = f.anchor := by
    rw [lowered_eq]
    exact ⟨rfl, rfl⟩
  unfold shown placed leavesLine
  rw [hlowered.1, hlowered.2, ← isSummary_iff]
  cases hsummary : f.isSummary with
  | true =>
    rw [if_neg (by simp), hlowered.1, hsummary]
    simp
  | false =>
    split_ifs with hleaves
    · have hreason : o.forcesSummary = true ∨ index.hasLine f.anchor = false := by
        simpa using hleaves
      exact ⟨fun _ => Or.inr hreason, fun _ => rfl⟩
    · rw [hlowered.1, hsummary]
      simpa using hleaves

theorem commentType_canonical (f : Finding) : f.canonical.commentType = f.commentType := by
  unfold canonical tidied
  rfl

theorem anchor_shown (f : Finding) : (f.shown index o).anchor = f.anchor := by
  rw [shown_eq]
  rfl

end Finding

/-- If nothing may be inline, then every comment goes into the summary or that is allowed. -/
theorem RefineOptions.forcesSummary_iff {types : List CommentType}
    (h : o.allowedTypes = some types) :
    o.forcesSummary = true ↔ o.summaryOnly = true ∨ .inline ∉ types := by
  unfold forcesSummary
  rw [h]
  simp

theorem mem_summary_of_inline_notMem {types : List CommentType} (hne : types ≠ [])
    (h : .inline ∉ types) : .summary ∈ types := by
  obtain ⟨t, ht⟩ := List.exists_mem_of_ne_nil types hne
  cases t with
  | inline => exact absurd ht h
  | summary => exact ht

/-- The findings of a refinement are of an allowed kind, but for those in the summary because every
comment goes there, because they came for it, or because their line is not in the diff. -/
theorem allowed_of_refine {v : Value} {s : Settings} {r : Refined}
    (hsettings : Settings.ofValue v = .ok s) (honly : o.summaryOnly = s.summaryOnly)
    (htypes : o.allowedTypes = some s.allowedTypes)
    (hr : refine drafts index files o = .ok r) :
    ∀ f ∈ r.findings, ∃ d ∈ drafts, ∃ f₀, d.read = .ok f₀ ∧ f₀.canonical.ShownAs f ∧
      (f.commentType ∈ s.allowedTypes ∨
        f.commentType = .summary ∧
          (s.summaryOnly = true ∨ f₀.commentType = .summary ∨
            index.hasLine f.anchor = false)) := by
  intro f hf
  obtain ⟨d, hd, f₀, hread, j, k, rfl⟩ := exists_draft_of_mem_findings hr hf
  have hshown : f₀.canonical.ShownAs (f₀.canonical.shown index o) := Finding.shownAs_shown _
  refine ⟨d, hd, f₀, hread, hshown.numbered (Finding.id_shown _) (Finding.key_shown _) j k, ?_⟩
  -- Numbers behind ids and keys change neither the kind of comment nor its place.
  show (f₀.canonical.shown index o).commentType ∈ s.allowedTypes ∨
    (f₀.canonical.shown index o).commentType = .summary ∧
      (s.summaryOnly = true ∨ f₀.commentType = .summary ∨
        index.hasLine (f₀.canonical.shown index o).anchor = false)
  have hreasons : (f₀.canonical.shown index o).isSummary = true ↔
      f₀.canonical.commentType = .summary ∨ o.forcesSummary = true ∨
        index.hasLine f₀.canonical.anchor = false := Finding.isSummary_shown_iff _
  have hanchor : (f₀.canonical.shown index o).anchor = f₀.canonical.anchor :=
    Finding.anchor_shown _
  rw [Finding.isSummary_iff, Finding.commentType_canonical, RefineOptions.forcesSummary_iff htypes,
    honly, ← hanchor] at hreasons
  cases htype : (f₀.canonical.shown index o).commentType with
  | inline =>
    left
    by_contra hinline
    have hsummary := hreasons.mpr (Or.inr (Or.inl (Or.inr hinline)))
    exact absurd (htype.symm.trans hsummary) (by decide)
  | summary =>
    rcases hreasons.mp htype with hcame | (honly | hinline) | hline
    · exact Or.inr ⟨rfl, Or.inr (Or.inl hcame)⟩
    · exact Or.inr ⟨rfl, Or.inl honly⟩
    · -- Then the summary is what the settings allow.
      exact Or.inl (mem_summary_of_inline_notMem (allowedTypes_ne_nil hsettings) hinline)
    · exact Or.inr ⟨rfl, Or.inr (Or.inr hline)⟩

/-- Settings that allow no comment but those on lines. -/
def inlineOnly : Value :=
  .table [(.text "comment_types", .table [(.text "allow", .list [.text "inline"])])]

/-- A remark on a line of the diff, one on another line, and one that came for the summary. -/
def remarksOfBothKinds : List Draft :=
  [.finding (remark "a" "one" 2), .finding (remark "b" "two" 9),
    .finding { remark "c" "three" 3 with commentType := .summary }]

/-- If only comments on lines are allowed, one of three remarks leaves its line all the same. -/
theorem allowed_of_remarksOfBothKinds :
    ∃ s r, Settings.ofValue inlineOnly = .ok s ∧ s.allowedTypes = [.inline] ∧
      s.summaryOnly = false ∧
      refine remarksOfBothKinds twoLines []
        { RefineOptions.default with allowedTypes := some [.inline] } = .ok r ∧
      r.diagnostics.convertedToSummary = 1 ∧
      ∀ f ∈ r.findings, ∃ d ∈ remarksOfBothKinds, ∃ f₀, d.read = .ok f₀ ∧
        f₀.canonical.ShownAs f ∧
        (f.commentType ∈ s.allowedTypes ∨
          f.commentType = .summary ∧
            (s.summaryOnly = true ∨ f₀.commentType = .summary ∨
              twoLines.hasLine f.anchor = false)) := by
  have hread : (Settings.ofValue inlineOnly).map (fun s => (s.allowedTypes, s.summaryOnly)) =
      .ok ([.inline], false) := by
    decide +kernel
  obtain ⟨s, hs, hchoices⟩ := exists_ok_of_map_eq_ok hread
  obtain ⟨htypes, honly⟩ := Prod.mk.inj hchoices
  have hcount : (refine remarksOfBothKinds twoLines []
      { RefineOptions.default with allowedTypes := some [.inline] }).map
        (fun r => r.diagnostics.convertedToSummary) = .ok 1 := by
    decide +kernel
  obtain ⟨r, hr, hcount⟩ := exists_ok_of_map_eq_ok hcount
  exact ⟨s, r, hs, htypes, honly, hr, hcount,
    allowed_of_refine hs honly.symm (congrArg some htypes.symm) hr⟩

/-- A remark that came for the summary stays there, though only comments on lines are allowed, its
line is in the diff, and not every comment has to go into the summary. -/
theorem not_allowed_of_summaryRemark :
    ∃ s r, Settings.ofValue inlineOnly = .ok s ∧ s.summaryOnly = false ∧
      refine [.finding { remark "a" "one" 2 with commentType := .summary }] twoLines []
        { RefineOptions.default with
          summaryOnly := s.summaryOnly, allowedTypes := some s.allowedTypes } = .ok r ∧
      ¬ ∀ f ∈ r.findings, f.commentType ∈ s.allowedTypes ∨
        f.commentType = .summary ∧ s.summaryOnly = true := by
  have hread : (Settings.ofValue inlineOnly).map (fun s => (s.allowedTypes, s.summaryOnly)) =
      .ok ([.inline], false) := by
    decide +kernel
  obtain ⟨s, hs, hchoices⟩ := exists_ok_of_map_eq_ok hread
  obtain ⟨htypes, honly⟩ := Prod.mk.inj hchoices
  have hkinds : (refine [.finding { remark "a" "one" 2 with commentType := .summary }] twoLines []
      { RefineOptions.default with summaryOnly := false, allowedTypes := some [.inline] }).map
        (fun r => r.findings.map Finding.commentType) = .ok [.summary] := by
    decide +kernel
  obtain ⟨r, hr, hkinds⟩ := exists_ok_of_map_eq_ok hkinds
  refine ⟨s, r, hs, honly, by rw [htypes, honly]; exact hr, ?_⟩
  intro hallowed
  have hsummary : CommentType.summary ∈ r.findings.map Finding.commentType := by
    rw [hkinds]
    exact List.mem_singleton_self _
  obtain ⟨f, hf, htype⟩ := List.mem_map.mp hsummary
  have hf' := hallowed f hf
  rw [htype, htypes, honly] at hf'
  exact absurd hf' (by decide)

end Triage
