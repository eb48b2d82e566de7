import Triage.Refinement.Screening
import Triage.Proofs.Finding.Canonical

/-!
# Correctness of screening

`screen_eq_ok_iff` says what becomes of a draft, and `exists_screen_eq_ok_iff` which drafts can be
screened. What is shown of a finding differs from it in severity and kind of comment only, and only
as `Finding.ShownAs` says (`shownAs_shown`); to show it once more changes nothing
(`IsSettled.shown_eq`), so a canonical finding that was kept is kept as it is
(`IsScreened.screen_eq`).
-/

namespace Triage

variable {index : DiffIndex} {paths : List String} {o : RefineOptions}

namespace Finding

/-! ### What is shown of a finding -/

/-- Whether a finding with a lower severity, or in the summary, or with a number behind its id and
key, is another one. -/
structure ShownAs (f shown : Finding) : Prop where
  severity : shown.severity = f.severity ∨
    (f.category = .style ∧ shown.severity = .nit) ∨
    (f.severity = .blocking ∧ f.hasPatch = false ∧ shown.severity = .important)
  commentType : shown.commentType = f.commentType ∨
    (f.commentType = .inline ∧ shown.commentType = .summary)
  id : ∃ k, shown.id = numbered f.id k
  key : ∃ k, shown.key = numbered f.key k
  others : shown = { f with
    id := shown.id
    key := shown.key
    severity := shown.severity
    commentType := shown.commentType }

theorem capStyle_of_overrated {f : Finding} (h : f.category = .style ∧ f.severity ≠ .nit) :
    f.capStyle = { f with severity := .nit } :=
  if_pos h

theorem capStyle_eq_self_iff {f : Finding} :
    f.capStyle = f ↔ ¬ (f.category = .style ∧ f.severity ≠ .nit) := by
  constructor
  · intro h hstyle
    have hnit := congrArg Finding.severity h
    rw [capStyle_of_overrated hstyle] at hnit
    exact hstyle.2 hnit.symm
  · intro h
    exact if_neg h

theorem capStyle_eq (f : Finding) : f.capStyle = { f with severity := f.capStyle.severity } := by
  unfold capStyle
  split_ifs <;> rfl

theorem downgrade_eq (f : Finding) :
    f.downgrade = { f with severity := f.downgrade.severity } := by
  unfold downgrade
  split_ifs <;> rfl

theorem lowered_eq (f : Finding) : f.lowered = { f with severity := f.lowered.severity } := by
  unfold lowered
  rw [downgrade_eq f.capStyle, capStyle_eq f]

theorem placed_eq (f : Finding) :
    f.placed index o = { f with commentType := (f.placed index o).commentType } := by
  unfold placed
  split_ifs <;> rfl

/-- Nothing but the severity and the kind of comment of a finding may change. -/
theorem shown_eq (f : Finding) :
    f.shown index o =
      { f with
        severity := (f.shown index o).severity
        commentType := (f.shown index o).commentType } := by
  unfold shown
  rw [placed_eq f.lowered, lowered_eq f]

theorem path_shown (f : Finding) : (f.shown index o).path = f.path := by
  rw [shown_eq]

theorem id_shown (f : Finding) : (f.shown index o).id = f.id := by
  rw [shown_eq]

theorem key_shown (f : Finding) : (f.shown index o).key = f.key := by
  rw [shown_eq]

theorem isMeaningful_shown (f : Finding) :
    (f.shown index o).isMeaningful = f.isMeaningful := by
  rw [shown_eq]
  rfl

theorem severity_shown (f : Finding) : (f.shown index o).severity = f.lowered.severity := by
  unfold shown
  rw [placed_eq]

theorem commentType_eq_inline {f : Finding} (h : f.isSummary = false) :
    f.commentType = .inline := by
  unfold isSummary at h
  cases hc : f.commentType with
  | inline => rfl
  | summary => rw [hc] at h; exact absurd h (by decide)

theorem commentType_shown (f : Finding) :
    (f.shown index o).commentType = f.commentType ∨
      (f.commentType = .inline ∧ (f.shown index o).commentType = .summary) := by
  have hsame : f.lowered.commentType = f.commentType := by rw [lowered_eq]
  unfold shown placed
  split_ifs with hleaves
  · -- Only an inline comment leaves its line.
    right
    have hinline : f.lowered.isSummary = false := by
      unfold leavesLine at hleaves
      simp only [Bool.and_eq_true, Bool.not_eq_true'] at hleaves
      exact hleaves.1
    exact ⟨hsame ▸ commentType_eq_inline hinline, rfl⟩
  · left
    exact hsame

theorem severity_lowered (f : Finding) :
    f.lowered.severity = f.severity ∨
      (f.category = .style ∧ f.lowered.severity = .nit) ∨
      (f.severity = .blocking ∧ f.hasPatch = false ∧ f.lowered.severity = .important) := by
  unfold lowered
  by_cases hstyle : f.category = .style ∧ f.severity ≠ .nit
  · -- A nit does not block, so the cap on style is all.
    rw [capStyle_of_overrated hstyle]
    right; left
    exact ⟨hstyle.1, rfl⟩
  · rw [capStyle_eq_self_iff.mpr hstyle]
    unfold downgrade
    split_ifs with hblocks
    · right; right
      unfold blocksWithoutPatch at hblocks
      simp only [Bool.and_eq_true, decide_eq_true_eq, Bool.not_eq_true'] at hblocks
      exact ⟨hblocks.1, hblocks.2, rfl⟩
    · left
      rfl

/-- What is shown of a finding is that finding, with less weight or less place. -/
theorem shownAs_shown (f : Finding) : f.ShownAs (f.shown index o) where
  severity := by
    rw [severity_shown]
    exact severity_lowered f
  commentType := commentType_shown f
  id := ⟨0, by rw [id_shown, numbered_zero]⟩
  key := ⟨0, by rw [key_shown, numbered_zero]⟩
  others := by
    rw [id_shown, key_shown]
    exact shown_eq f

/-- A finding that is shown may get a number behind its id and its key. -/
theorem ShownAs.numbered {f g : Finding} (h : f.ShownAs g) (hid : g.id = f.id)
    (hkey : g.key = f.key) (j k : ℕ) :
    f.ShownAs { g with id := Triage.numbered g.id j, key := Triage.numbered g.key k } where
  severity := h.severity
  commentType := h.commentType
  id := ⟨j, by rw [hid]⟩
  key := ⟨k, by rw [hkey]⟩
  others := by
    have hg := h.others
    rw [hg]

/-! ### Findings that are shown as they are -/

/-- Whether a finding is shown as it is. -/
structure IsSettled (index : DiffIndex) (o : RefineOptions) (f : Finding) : Prop where
  capStyle : f.capStyle = f
  blocks : f.blocksWithoutPatch = false
  leaves : f.leavesLine index o = false

theorem IsSettled.lowered_eq {f : Finding} (h : f.IsSettled index o) : f.lowered = f := by
  unfold lowered
  rw [h.capStyle, downgrade, h.blocks, if_neg Bool.false_ne_true]

/-- A settled finding is shown as it is. -/
theorem IsSettled.shown_eq {f : Finding} (h : f.IsSettled index o) : f.shown index o = f := by
  unfold shown
  rw [h.lowered_eq, placed, h.leaves, if_neg Bool.false_ne_true]

theorem capStyle_capStyle (f : Finding) : f.capStyle.capStyle = f.capStyle := by
  by_cases hstyle : f.category = .style ∧ f.severity ≠ .nit
  · rw [capStyle_of_overrated hstyle, capStyle_eq_self_iff]
    rintro ⟨-, hnit⟩
    exact hnit rfl
  · rw [capStyle_eq_self_iff.mpr hstyle, capStyle_eq_self_iff.mpr hstyle]

theorem capStyle_lowered (f : Finding) : f.lowered.capStyle = f.lowered := by
  have hcapped := capStyle_eq_self_iff.mp (capStyle_capStyle f)
  unfold lowered downgrade
  split_ifs with hblocks
  · -- A finding that blocks after the cap on style is not one of style, so the cap leaves it alone.
    unfold blocksWithoutPatch at hblocks
    simp only [Bool.and_eq_true, decide_eq_true_eq] at hblocks
    rw [capStyle_eq_self_iff]
    rintro ⟨hstyle, -⟩
    apply hcapped
    refine ⟨hstyle, ?_⟩
    rw [hblocks.1]
    exact Severity.noConfusion
  · exact capStyle_capStyle f

theorem blocksWithoutPatch_lowered (f : Finding) : f.lowered.blocksWithoutPatch = false := by
  unfold lowered downgrade
  split_ifs with hblocks
  · rfl
  · exact Bool.eq_false_iff.mpr hblocks

theorem leavesLine_placed (f : Finding) : (f.placed index o).leavesLine index o = false := by
  unfold placed
  split_ifs with hleaves
  · rfl
  · exact Bool.eq_false_iff.mpr hleaves

/-- What is shown of a finding is shown as it is. -/
theorem isSettled_shown (f : Finding) : (f.shown index o).IsSettled index o where
  capStyle := by
    have h := capStyle_eq_self_iff.mp (capStyle_lowered f)
    unfold shown
    rw [placed_eq, capStyle_eq_self_iff]
    exact h
  blocks := by
    have h := blocksWithoutPatch_lowered f
    unfold shown
    rw [placed_eq]
    exact h
  leaves := leavesLine_placed f.lowered

theorem IsSettled.withIdentity {f : Finding} (h : f.IsSettled index o) (id key : String) :
    { f with id := id, key := key }.IsSettled index o where
  capStyle := by
    have hcap := capStyle_eq_self_iff.mp h.capStyle
    rw [capStyle_eq_self_iff]
    exact hcap
  blocks := h.blocks
  leaves := h.leaves

/-- What is shown of a canonical finding is canonical. -/
theorem IsCanonical.shown {f : Finding} (h : f.IsCanonical) : (f.shown index o).IsCanonical := by
  rw [shown_eq]
  exact ⟨h.path, h.title, h.body, h.evidence, h.patch, h.id, h.key⟩

end Finding

/-! ### What becomes of a draft -/

/-- A canonical finding is left out, or it is ranked. -/
theorem screenCanonical_eq_ok_iff {f : Finding} {outcome : Outcome} :
    screenCanonical index paths o f = .ok outcome ↔
      (Glob.anyAccepts o.ignore f.path = true ∧ outcome = .ignored) ∨
      (Glob.anyAccepts o.ignore f.path = false ∧ f.isMeaningful = false ∧ outcome = .empty) ∨
      (Glob.anyAccepts o.ignore f.path = false ∧ f.isMeaningful = true ∧
        ∃ score, (f.shown index o).score? index paths o = some score ∧
          outcome = .kept ⟨f.shown index o, score⟩ f.capStyle.blocksWithoutPatch
            (f.lowered.leavesLine index o)) := by
  unfold screenCanonical rank
  cases hignored : Glob.anyAccepts o.ignore f.path with
  | true => simp [eq_comm (b := outcome)]
  | false =>
    cases hmeaningful : f.isMeaningful with
    | false => simp [eq_comm (b := outcome)]
    | true =>
      cases hscore : (f.shown index o).score? index paths o with
      | none => simp
      | some score => simp [eq_comm (b := outcome)]

/-- A draft that is no finding is empty; any other one is screened in its canonical form. -/
theorem screen_eq_ok_iff {d : Draft} {outcome : Outcome} :
    screen index paths o d = .ok outcome ↔
      ((∃ e, d.read = .error e) ∧ outcome = .empty) ∨
      ∃ f, d.read = .ok f ∧ f.isIdentifiable = true ∧
        screenCanonical index paths o f.canonical = .ok outcome := by
  unfold screen
  cases hread : d.read with
  | error e => simp [eq_comm (b := outcome)]
  | ok f =>
    unfold Finding.toCanonical
    cases hid : f.isIdentifiable with
    | false => simp [hid, Except.bind]
    | true => simp [hid, Except.bind]

/-- Whether a draft can be screened: if it is a finding, an id and a key can be made for it, and if
it is not left out, its score is not beyond the doubles. -/
def IsScreenable (index : DiffIndex) (paths : List String) (o : RefineOptions) (d : Draft) :
    Prop :=
  ∀ f, d.read = .ok f → f.isIdentifiable = true ∧
    (Glob.anyAccepts o.ignore f.canonical.path = false → f.canonical.isMeaningful = true →
      ((f.canonical.shown index o).score? index paths o).isSome = true)

theorem exists_screenCanonical_eq_ok_iff {f : Finding} :
    (∃ outcome, screenCanonical index paths o f = .ok outcome) ↔
      (Glob.anyAccepts o.ignore f.path = false → f.isMeaningful = true →
        ((f.shown index o).score? index paths o).isSome = true) := by
  simp only [screenCanonical_eq_ok_iff, Option.isSome_iff_exists]
  cases Glob.anyAccepts o.ignore f.path with
  | true => simp
  | false =>
    cases f.isMeaningful with
    | false => simp
    | true =>
      simp only [Bool.true_eq_false, Bool.false_eq_true, false_and, true_and, false_or,
        forall_const]
      constructor
      · rintro ⟨-, score, hscore, -⟩
        exact ⟨score, hscore⟩
      · rintro ⟨score, hscore⟩
        exact ⟨_, score, hscore, rfl⟩

/-- A draft has an outcome iff it can be screened. -/
theorem exists_screen_eq_ok_iff {d : Draft} :
    (∃ outcome, screen index paths o d = .ok outcome) ↔ IsScreenable index paths o d := by
  unfold IsScreenable
  simp only [← exists_screenCanonical_eq_ok_iff]
  constructor
  · rintro ⟨outcome, h⟩ f hf
    rcases screen_eq_ok_iff.mp h with ⟨⟨e, he⟩, -⟩ | ⟨g, hg, hid, hscreen⟩
    · rw [hf] at he
      exact absurd he (by simp)
    · rw [hf, Except.ok.injEq] at hg
      subst hg
      exact ⟨hid, outcome, hscreen⟩
  · intro h
    cases hread : d.read with
    | error e => exact ⟨.empty, screen_eq_ok_iff.mpr (Or.inl ⟨⟨e, hread⟩, rfl⟩)⟩
    | ok f =>
      obtain ⟨hid, outcome, hscreen⟩ := h f hread
      exact ⟨outcome, screen_eq_ok_iff.mpr (Or.inr ⟨f, hread, hid, hscreen⟩)⟩

/-! ### What is kept -/

/-- Whether an item is kept as it is if its finding is canonical. -/
structure Ranked.IsScreened (index : DiffIndex) (paths : List String) (o : RefineOptions)
    (item : Ranked) : Prop where
  accepted : Glob.anyAccepts o.ignore item.finding.path = false
  meaningful : item.finding.isMeaningful = true
  settled : item.finding.IsSettled index o
  score : item.finding.score? index paths o = some item.score

theorem Ranked.IsScreened.withIdentity {item : Ranked} (h : item.IsScreened index paths o)
    (id key : String) :
    Ranked.IsScreened index paths o ⟨{ item.finding with id := id, key := key }, item.score⟩ where
  accepted := h.accepted
  meaningful := h.meaningful
  settled := h.settled.withIdentity id key
  score := h.score

/-- An item that was kept is what is shown of the canonical form of the draft. -/
theorem exists_of_screen_eq_kept {d : Draft} {item : Ranked} {downgraded converted : Bool}
    (h : screen index paths o d = .ok (.kept item downgraded converted)) :
    ∃ f, d.read = .ok f ∧ f.toCanonical = .ok f.canonical ∧
      item.finding = f.canonical.shown index o ∧ item.IsScreened index paths o := by
  rcases screen_eq_ok_iff.mp h with ⟨-, hempty⟩ | ⟨f, hf, hid, hscreen⟩
  · exact absurd hempty (by simp)
  · rcases screenCanonical_eq_ok_iff.mp hscreen with
      ⟨-, hignored⟩ | ⟨-, -, hempty⟩ | ⟨haccepted, hmeaningful, score, hscore, hkept⟩
    · exact absurd hignored (by simp)
    · exact absurd hempty (by simp)
    · rw [Outcome.kept.injEq] at hkept
      rw [hkept.1]
      refine ⟨f, hf, if_pos hid, rfl, ?_, ?_, Finding.isSettled_shown _, hscore⟩
      · show Glob.anyAccepts o.ignore (f.canonical.shown index o).path = false
        rw [Finding.path_shown]
        exact haccepted
      · show (f.canonical.shown index o).isMeaningful = true
        rw [Finding.isMeaningful_shown]
        exact hmeaningful

/-- A canonical finding that was kept once is kept as it is. -/
theorem Ranked.IsScreened.screen_eq {item : Ranked} (h : item.IsScreened index paths o)
    (hcanonical : item.finding.IsCanonical) :
    screen index paths o (.finding item.finding) = .ok (.kept item false false) := by
  apply screen_eq_ok_iff.mpr
  refine Or.inr ⟨item.finding, rfl, hcanonical.isIdentifiable, ?_⟩
  rw [hcanonical.canonical_eq]
  apply screenCanonical_eq_ok_iff.mpr
  refine Or.inr (Or.inr ⟨h.accepted, h.meaningful, item.score, ?_, ?_⟩)
  · rw [h.settled.shown_eq]
    exact h.score
  · rw [h.settled.shown_eq, h.settled.lowered_eq, h.settled.capStyle, h.settled.blocks,
      h.settled.leaves]

end Triage
