import Triage.Proofs.Refinement.Presentation
import Triage.Proofs.Supplement.Judging

/-!
# Rejected drafts

A draft is rejected if it is no finding, or says nothing, or is on a path to leave out. Screening
leaves such a draft out whatever else it holds (`exists_screen_of_isRejected`), and no later stage
sees it, so that rejected drafts anywhere among the others change nothing but the two counts of what
was left out (`refine_padded_iff`). But the id and the key of a draft are made before it is looked
at, and so a rejected draft for which they cannot be made keeps the others from being refined
(`not_inert_loneSurrogate`).
-/

namespace Triage

/-! ### Lists with more items in between -/

/-- Whether a list is another one with more items, all of one kind, anywhere in between. -/
inductive IsPadded {α : Type} (p : α → Prop) : List α → List α → Prop
  | nil : IsPadded p [] []
  | keep {items more : List α} (a : α) (rest : IsPadded p items more) :
    IsPadded p (a :: items) (a :: more)
  | insert {items more : List α} {a : α} (kind : p a) (rest : IsPadded p items more) :
    IsPadded p items (a :: more)

namespace IsPadded

variable {α β : Type} {p : α → Prop} {items more : List α}

theorem sublist (h : IsPadded p items more) : items.Sublist more := by
  induction h with
  | nil => exact List.Sublist.refl _
  | keep a _ ih => exact ih.cons_cons a
  | insert _ _ ih => exact ih.cons _

/-- What is in the longer list is in the other one, or of the kind. -/
theorem mem_or (h : IsPadded p items more) {a : α} (ha : a ∈ more) : a ∈ items ∨ p a := by
  induction h with
  | nil => exact Or.inl ha
  | keep b _ ih =>
    rcases List.mem_cons.mp ha with rfl | ha
    · exact Or.inl (List.mem_cons_self ..)
    · exact (ih ha).imp_left (List.mem_cons_of_mem b)
  | insert kind _ ih =>
    rcases List.mem_cons.mp ha with rfl | ha
    · exact Or.inr kind
    · exact ih ha

theorem filterMap_eq {f : α → Option β} (hf : ∀ a, p a → f a = none)
    (h : IsPadded p items more) : more.filterMap f = items.filterMap f := by
  induction h with
  | nil => rfl
  | keep a _ ih => rw [List.filterMap_cons, List.filterMap_cons, ih]
  | insert kind _ ih => rw [List.filterMap_cons, hf _ kind, ih]

theorem countP_eq {f : α → Bool} (hf : ∀ a, p a → f a = false) (h : IsPadded p items more) :
    more.countP f = items.countP f := by
  induction h with
  | nil => rfl
  | keep a _ ih => rw [List.countP_cons, List.countP_cons, ih]
  | insert kind _ ih => rw [List.countP_cons_of_neg (by simp [hf _ kind]), ih]

end IsPadded

/-! ### Screening -/

variable {drafts extended : List Draft} {index : DiffIndex} {files : List ChangedFile}
  {o : RefineOptions}

/-- Whether a draft is no finding, or one that says nothing or is on a path to leave out. -/
def Draft.IsRejected (o : RefineOptions) (d : Draft) : Prop :=
  ∀ f, d.read = .ok f →
    f.isMeaningful = false ∨ Glob.anyAccepts o.ignore (Path.relative f.path) = true

instance (o : RefineOptions) (d : Draft) : Decidable (d.IsRejected o) :=
  match h : d.read with
  | .error _ => isTrue fun _ hread => absurd (h.symm.trans hread) (by simp)
  | .ok f =>
    decidable_of_iff
      (f.isMeaningful = false ∨ Glob.anyAccepts o.ignore (Path.relative f.path) = true) <| by
      unfold Draft.IsRejected
      simp [h]

/-- Whether a draft was left out. -/
def Outcome.IsLeftOut (outcome : Outcome) : Prop :=
  outcome = .ignored ∨ outcome = .empty

/-- A rejected draft is left out, if an id and a key can be made for it. -/
theorem exists_screen_of_isRejected {paths : List String} {d : Draft} (h : d.IsRejected o) :
    (∃ outcome, screen index paths o d = .ok outcome) ↔ d.IsIdentifiable := by
  rw [exists_screen_eq_ok_iff]
  constructor
  · intro hscreenable f hread
    exact (hscreenable f hread).1
  · intro hid f hread
    refine ⟨hid f hread, fun haccepted hmeaningful => ?_⟩
    -- It would not come to a score.
    rw [Finding.isMeaningful_canonical] at hmeaningful
    rcases h f hread with hempty | hignored
    · rw [hempty] at hmeaningful
      exact absurd hmeaningful Bool.false_ne_true
    · exact absurd (hignored.symm.trans haccepted) (by decide)

theorem isLeftOut_of_isRejected {paths : List String} {d : Draft} (h : d.IsRejected o)
    {outcome : Outcome} (hscreen : screen index paths o d = .ok outcome) :
    outcome.IsLeftOut := by
  cases outcome with
  | ignored => exact Or.inl rfl
  | empty => exact Or.inr rfl
  | kept item downgraded converted =>
    obtain ⟨f, hread, -, hfinding, hscreened⟩ := exists_of_screen_eq_kept hscreen
    have haccepted := hscreened.accepted
    have hmeaningful := hscreened.meaningful
    rw [hfinding, Finding.path_shown] at haccepted
    rw [hfinding, Finding.isMeaningful_shown, Finding.isMeaningful_canonical] at hmeaningful
    rcases h f hread with hempty | hignored
    · exact absurd (hempty.symm.trans hmeaningful) (by decide)
    · exact absurd (hignored.symm.trans haccepted) (by decide)

/-- What becomes of rejected drafts in between is that they are left out. -/
theorem AreScreened.exists_unpadded (h : IsPadded (Draft.IsRejected o) drafts extended)
    {outcomes' : List Outcome} (hscreened : AreScreened extended index files o outcomes') :
    ∃ outcomes, AreScreened drafts index files o outcomes ∧
      IsPadded Outcome.IsLeftOut outcomes outcomes' := by
  induction h generalizing outcomes' with
  | nil =>
    cases hscreened
    exact ⟨[], .nil, .nil⟩
  | keep d _ ih =>
    cases hscreened with
    | cons head tail =>
      obtain ⟨outcomes, houtcomes, hpadded⟩ := ih tail
      exact ⟨_, .cons head houtcomes, hpadded.keep _⟩
  | insert hrejected _ ih =>
    cases hscreened with
    | cons head tail =>
      obtain ⟨outcomes, houtcomes, hpadded⟩ := ih tail
      exact ⟨outcomes, houtcomes, hpadded.insert (isLeftOut_of_isRejected hrejected head)⟩

/-! ### The whole refinement -/

/-- Whether one result is another one with some more drafts counted as left out. -/
structure Refined.LeavesOut (n : ℕ) (r r' : Refined) : Prop where
  findings : r'.findings = r.findings
  leftOut : r'.diagnostics.droppedIgnored + r'.diagnostics.droppedEmpty =
    r.diagnostics.droppedIgnored + r.diagnostics.droppedEmpty + n
  others : r'.diagnostics = { r.diagnostics with
    droppedIgnored := r'.diagnostics.droppedIgnored
    droppedEmpty := r'.diagnostics.droppedEmpty }

/-- What was left out plays no part behind the screening. -/
theorem leavesOut_ofOutcomes {outcomes outcomes' : List Outcome}
    (h : IsPadded Outcome.IsLeftOut outcomes outcomes') :
    (Refined.ofOutcomes o outcomes).LeavesOut (outcomes'.length - outcomes.length)
      (.ofOutcomes o outcomes') := by
  have hitems : outcomes'.filterMap Outcome.item? = outcomes.filterMap Outcome.item? :=
    h.filterMap_eq (by rintro outcome (rfl | rfl) <;> rfl)
  have hconverted : outcomes'.countP Outcome.isConverted = outcomes.countP Outcome.isConverted :=
    h.countP_eq (by rintro outcome (rfl | rfl) <;> rfl)
  have hdowngraded :
      outcomes'.countP Outcome.isDowngraded = outcomes.countP Outcome.isDowngraded :=
    h.countP_eq (by rintro outcome (rfl | rfl) <;> rfl)
  have hstrongest : strongestOf outcomes' = strongestOf outcomes := by
    unfold strongestOf
    rw [hitems]
  have hcapped : cappedOf o outcomes' = cappedOf o outcomes := by
    unfold cappedOf
    rw [hstrongest]
  have hshown : shownItems o outcomes' = shownItems o outcomes := by
    unfold shownItems
    rw [hcapped]
  refine ⟨?_, ?_, ?_⟩
  · unfold Refined.ofOutcomes
    rw [hshown]
  · -- All that are not kept are counted, and as many are kept as before.
    have hcount := countP_add_countP_add_length outcomes
    have hcount' := countP_add_countP_add_length outcomes'
    have hle := h.sublist.length_le
    rw [hitems] at hcount'
    show outcomes'.countP Outcome.isIgnored + outcomes'.countP Outcome.isEmpty =
      outcomes.countP Outcome.isIgnored + outcomes.countP Outcome.isEmpty +
        (outcomes'.length - outcomes.length)
    omega
  · unfold Refined.ofOutcomes
    rw [hstrongest, hcapped, hconverted, hdowngraded]

/-- Rejected drafts in between change nothing but the counts of what was left out, iff the others
can be refined and an id and a key can be made for each of them all. -/
theorem refine_padded_iff (h : IsPadded (Draft.IsRejected o) drafts extended) (index : DiffIndex)
    (files : List ChangedFile) :
    (∃ r r', refine drafts index files o = .ok r ∧ refine extended index files o = .ok r' ∧
      r.LeavesOut (extended.length - drafts.length) r') ↔
    IsRefinable drafts index files o ∧ ∀ d ∈ extended, d.IsIdentifiable := by
  constructor
  · rintro ⟨r, r', hr, hr', -⟩
    refine ⟨exists_refine_eq_ok_iff.mp ⟨r, hr⟩, fun d hd f hread => ?_⟩
    exact ((exists_refine_eq_ok_iff.mp ⟨r', hr'⟩).screenable d hd f hread).1
  · rintro ⟨hrefinable, hids⟩
    have hextended : IsRefinable extended index files o := by
      refine ⟨fun d hd => ?_, hrefinable.share⟩
      rcases h.mem_or hd with hmem | hrejected
      · exact hrefinable.screenable d hmem
      · exact exists_screen_eq_ok_iff.mp ((exists_screen_of_isRejected hrejected).mpr (hids d hd))
    obtain ⟨r', hr'⟩ := exists_refine_eq_ok_iff.mpr hextended
    obtain ⟨hshare, outcomes', houtcomes', rfl⟩ := refine_eq_ok_iff.mp hr'
    obtain ⟨outcomes, houtcomes, hpadded⟩ := houtcomes'.exists_unpadded h
    refine ⟨_, _, refine_eq_ok_iff.mpr ⟨hshare, outcomes, houtcomes, rfl⟩, hr', ?_⟩
    rw [houtcomes.length_eq, houtcomes'.length_eq]
    exact leavesOut_ofOutcomes hpadded

/-- Choices that leave out what was built. -/
def withoutBuilt : RefineOptions :=
  { RefineOptions.default with ignore := ["dist/*"] }

/-- Two remarks that say the same. -/
def sameRemarks : List Draft :=
  [.finding (remark "a" "one" 2), .finding (remark "b" "One" 2)]

/-- The two remarks with a draft that is no finding, one that says nothing, and one on a path to
leave out. -/
def paddedRemarks : List Draft :=
  [.document (.text "one"), .finding (remark "a" "one" 2),
    .finding { remark "a" "one" 2 with body := " N/A " },
    .finding { remark "a" "one" 2 with path := "./dist/a.py" }, .finding (remark "b" "One" 2)]

/-- Three rejected drafts around two remarks are counted, and nothing else changes. -/
theorem refine_padded_paddedRemarks :
    IsPadded (Draft.IsRejected withoutBuilt) sameRemarks paddedRemarks ∧
    ∃ r r', refine sameRemarks twoLines [] withoutBuilt = .ok r ∧
      refine paddedRemarks twoLines [] withoutBuilt = .ok r' ∧ r.LeavesOut 3 r' ∧
      r'.diagnostics = ⟨1, 2, 1, 0, 0, 0⟩ := by
  have hpadded : IsPadded (Draft.IsRejected withoutBuilt) sameRemarks paddedRemarks :=
    .insert (by decide +kernel) <| .keep _ <| .insert (by decide +kernel) <|
      .insert (by decide +kernel) <| .keep _ .nil
  have hfirst : (refine sameRemarks twoLines [] withoutBuilt).map (fun _ => ()) = .ok () := by
    decide +kernel
  have hsecond : (refine paddedRemarks twoLines [] withoutBuilt).map Refined.diagnostics =
      .ok ⟨1, 2, 1, 0, 0, 0⟩ := by
    decide +kernel
  obtain ⟨r, hr, -⟩ := exists_ok_of_map_eq_ok hfirst
  obtain ⟨r', hr', hdiagnostics⟩ := exists_ok_of_map_eq_ok hsecond
  have hrefinable := exists_refine_eq_ok_iff.mp ⟨r, hr⟩
  have hextended := exists_refine_eq_ok_iff.mp ⟨r', hr'⟩
  obtain ⟨s, s', hs, hs', hleaves⟩ := (refine_padded_iff hpadded twoLines []).mpr
    ⟨hrefinable, fun d hd f hread => (hextended.screenable d hd f hread).1⟩
  obtain rfl : s = r := Except.ok.inj (hs.symm.trans hr)
  obtain rfl : s' = r' := Except.ok.inj (hs'.symm.trans hr')
  exact ⟨hpadded, s, s', hs, hs', hleaves, hdiagnostics⟩

/-- Choices that leave out the sources. -/
def withoutSources : RefineOptions :=
  { RefineOptions.default with ignore := ["src/*"] }

/-- A remark that is not on the sources. -/
def remarkElsewhere : Draft :=
  .finding { remark "a" "one" 2 with path := "lib/a.py" }

/-- A remark can be refined, but not together with one that is on a path to leave out and has half
of a surrogate pair in its title. -/
theorem not_inert_loneSurrogate :
    IsPadded (Draft.IsRejected withoutSources) [remarkElsewhere]
      [remarkElsewhere, loneSurrogate] ∧
    (∃ r, refine [remarkElsewhere] twoLines [] withoutSources = .ok r) ∧
    ¬ ∃ r', refine [remarkElsewhere, loneSurrogate] twoLines [] withoutSources = .ok r' := by
  have hfirst : (refine [remarkElsewhere] twoLines [] withoutSources).map (fun _ => ()) =
      .ok () := by
    decide +kernel
  have hsecond : refine [remarkElsewhere, loneSurrogate] twoLines [] withoutSources =
      .error .unencodable := by
    decide +kernel
  obtain ⟨r, hr, -⟩ := exists_ok_of_map_eq_ok hfirst
  refine ⟨.keep _ (.insert (by decide +kernel) .nil), ⟨r, hr⟩, ?_⟩
  rw [hsecond]
  simp

end Triage
