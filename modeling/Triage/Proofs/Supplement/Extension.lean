import Triage.Proofs.Distinctness
import Triage.Proofs.Supplement.Judging

/-!
# A supplement adds what was not said

Whenever an id and a key can be made for every draft, a supplement accounts for each of them and
gives the findings of the first pass with those drafts behind them that echo nothing in front of
them (`Supplemented.Extends`, `supplement_extends_iff`). A draft without an id whose title has half
of a surrogate pair leaves no result at all.
-/

namespace Triage

/-- The findings that were added. -/
abbrev additions (outcomes : List SupplementOutcome) : List Finding :=
  outcomes.filterMap SupplementOutcome.finding?

/-- The canonical form of what was handed in, if it is a finding. -/
def Draft.canonical? (draft : Draft) : Option Finding :=
  draft.read.toOption.map Finding.canonical

variable {base said : List Finding} {draft : Draft} {drafts supplemental : List Draft}
  {outcome : SupplementOutcome} {outcomes : List SupplementOutcome}

/-! ### What the judgements say -/

theorem additions_cons (outcome : SupplementOutcome) (outcomes : List SupplementOutcome) :
    additions (outcome :: outcomes) = outcome.finding?.toList ++ additions outcomes := by
  cases outcome with
  | added f => rfl
  | _ => rfl

/-- What is added is a draft in canonical form that is worth it and echoes nothing. -/
theorem JudgedAs.of_finding? (h : JudgedAs said draft outcome) {f : Finding}
    (hf : f ∈ outcome.finding?.toList) :
    draft.canonical? = some f ∧ f.isMinor = false ∧ ∀ g ∈ said, ¬ f.Echoes g := by
  cases h with
  | added read worthy fresh =>
    obtain rfl := List.mem_singleton.mp hf
    refine ⟨?_, worthy, fresh⟩
    rw [Draft.canonical?, read]
    rfl
  | _ => exact absurd hf List.not_mem_nil

namespace AreJudged

theorem length_eq (h : AreJudged said drafts outcomes) : outcomes.length = drafts.length := by
  induction h with
  | nil => rfl
  | cons _ _ ih => rw [List.length_cons, List.length_cons, ih]

theorem isMinor_eq_false (h : AreJudged said drafts outcomes) :
    ∀ f ∈ additions outcomes, f.isMinor = false := by
  induction h with
  | nil => exact fun f hf => absurd hf List.not_mem_nil
  | cons head _ ih =>
    intro f hf
    rw [additions_cons, List.mem_append] at hf
    rcases hf with hf | hf
    · exact (head.of_finding? hf).2.1
    · exact ih f hf

/-- What is added echoes neither what was said at first nor what was added before. -/
theorem not_echoes (h : AreJudged said drafts outcomes) :
    (∀ f ∈ additions outcomes, ∀ g ∈ said, ¬ f.Echoes g) ∧
      (additions outcomes).Pairwise fun g f => ¬ f.Echoes g := by
  induction h with
  | nil => exact ⟨fun f hf => absurd hf List.not_mem_nil, List.Pairwise.nil⟩
  | @cons said draft drafts outcome outcomes head _ ih =>
    obtain ⟨hsaid, hpairwise⟩ := ih
    rw [additions_cons]
    constructor
    · intro f hf g hg
      rcases List.mem_append.mp hf with hf | hf
      · exact (head.of_finding? hf).2.2 g hg
      · exact hsaid f hf g (List.mem_append_left _ hg)
    · rw [List.pairwise_append]
      refine ⟨?_, hpairwise, ?_⟩
      · cases outcome with
        | added f => exact List.pairwise_singleton _ f
        | _ => exact List.Pairwise.nil
      · -- What this draft added is said before the drafts behind it.
        intro g hg f hf
        exact hsaid f hf g (List.mem_append_right _ hg)

/-- A duplicate echoes what was said at first or what is added. -/
theorem exists_echoes (h : AreJudged said drafts outcomes) {draft : Draft}
    (hmem : (draft, SupplementOutcome.duplicate) ∈ drafts.zip outcomes) :
    ∃ f, draft.read = .ok f ∧ ∃ g ∈ said ++ additions outcomes, f.canonical.Echoes g := by
  induction h with
  | nil => exact absurd hmem List.not_mem_nil
  | @cons said first drafts outcome outcomes head _ ih =>
    rw [List.zip_cons_cons, List.mem_cons] at hmem
    rw [additions_cons, ← List.append_assoc]
    rcases hmem with heq | hmem
    · obtain ⟨rfl, rfl⟩ := Prod.mk.inj heq
      cases head with
      | duplicate read worthy known echo =>
        refine ⟨_, read, _, ?_, echo⟩
        exact List.mem_append_left _ (List.mem_append_left _ known)
    · exact ih hmem

/-- What is added stands in the order of the drafts. -/
theorem sublist (h : AreJudged said drafts outcomes) :
    (additions outcomes).Sublist (drafts.filterMap Draft.canonical?) := by
  induction h with
  | nil => exact List.Sublist.refl _
  | @cons said draft drafts outcome outcomes head _ ih =>
    have hcons : (draft :: drafts).filterMap Draft.canonical? =
        draft.canonical?.toList ++ drafts.filterMap Draft.canonical? := by
      rw [List.filterMap_cons]
      cases draft.canonical? with
      | none => rfl
      | some f => rfl
    rw [additions_cons, hcons]
    apply List.Sublist.append _ ih
    cases hadded : outcome.finding? with
    | none => exact List.nil_sublist _
    | some f =>
      have hf : f ∈ outcome.finding?.toList := by
        rw [hadded]
        exact List.mem_singleton_self f
      rw [(head.of_finding? hf).1]

end AreJudged

/-- Every outcome is one of four. -/
theorem length_additions_add_counts (outcomes : List SupplementOutcome) :
    (additions outcomes).length + outcomes.count .duplicate + outcomes.count .lowValue +
      outcomes.count .invalid = outcomes.length := by
  induction outcomes with
  | nil => rfl
  | cons outcome rest ih =>
    rw [additions_cons, List.length_append, List.length_cons, ← ih]
    cases outcome with
    | added f => simp [SupplementOutcome.finding?]; omega
    | _ => simp [SupplementOutcome.finding?]; omega

/-! ### What the result says -/

/-- Whether a result is the first pass with what the second one says for the first time, each of its
drafts having the outcome that it should. -/
structure Supplemented.Extends (base : List Finding) (supplemental : List Draft)
    (outcomes : List SupplementOutcome) (r : Supplemented) : Prop where
  judged : AreJudged base supplemental outcomes
  total : r.added + r.droppedDuplicates + r.droppedLowValue + r.droppedInvalid =
    supplemental.length
  added : r.added = (additions outcomes).length
  duplicates : r.droppedDuplicates = outcomes.count .duplicate
  lowValue : r.droppedLowValue = outcomes.count .lowValue
  invalid : r.droppedInvalid = outcomes.count .invalid
  order : (additions outcomes).Sublist (supplemental.filterMap Draft.canonical?)
  findings : List.Forall₂ Finding.IsNumbered (base ++ additions outcomes) r.findings
  unchanged : (base.map Finding.id).Nodup → (base.map Finding.key).Nodup →
    r.findings.take base.length = base
  worthy : ∀ i (hi : i < r.findings.length), base.length ≤ i → r.findings[i].isMinor = false
  fresh : ∀ i j (hi : i < r.findings.length) (hj : j < r.findings.length), i < j →
    base.length ≤ j → ¬ r.findings[j].Echoes r.findings[i]
  echoed : ∀ draft, (draft, SupplementOutcome.duplicate) ∈ supplemental.zip outcomes →
    ∃ f, draft.read = .ok f ∧ ∃ g ∈ r.findings, f.canonical.Echoes g

/-- What stands behind the first pass was added, so it echoes nothing in front of it. -/
theorem AreJudged.not_echoes_getElem (h : AreJudged said drafts outcomes) {i j : ℕ}
    (hij : i < j) (hsaid : said.length ≤ j) (hj : j < (said ++ additions outcomes).length) :
    ¬ (said ++ additions outcomes)[j].Echoes (said ++ additions outcomes)[i] := by
  obtain ⟨hfirst, hpairwise⟩ := h.not_echoes
  rw [List.getElem_append_right hsaid]
  by_cases hi : i < said.length
  · rw [List.getElem_append_left hi]
    exact hfirst _ (List.getElem_mem _) _ (List.getElem_mem _)
  · rw [List.getElem_append_right (Nat.le_of_not_lt hi)]
    exact List.pairwise_iff_getElem.mp hpairwise _ _ _ _ (by omega)

theorem extends_ofOutcomes (h : AreJudged base supplemental outcomes) :
    (Supplemented.ofOutcomes base outcomes).Extends base supplemental outcomes where
  judged := h
  total := by
    rw [← h.length_eq, ← length_additions_add_counts outcomes]
    rfl
  added := rfl
  duplicates := rfl
  lowValue := rfl
  invalid := rfl
  order := h.sublist
  findings := forall₂_suffixRepeats _
  unchanged := by
    intro hids hkeys
    show (suffixRepeats (base ++ additions outcomes)).take base.length = base
    rw [take_suffixRepeats_append, suffixRepeats_eq_self hids hkeys]
  worthy := by
    intro i hi hbase
    have hlen : i < (base ++ additions outcomes).length := (length_suffixRepeats _) ▸ hi
    show (suffixRepeats (base ++ additions outcomes))[i].isMinor = false
    rw [getElem_suffixRepeats _ i hi hlen]
    show (base ++ additions outcomes)[i].isMinor = false
    rw [List.getElem_append_right hbase]
    exact h.isMinor_eq_false _ (List.getElem_mem _)
  fresh := by
    intro i j hi hj hij hbase
    have hlen : (suffixRepeats (base ++ additions outcomes)).length = _ := length_suffixRepeats _
    have hnot := h.not_echoes_getElem hij hbase (hlen ▸ hj)
    show ¬ (suffixRepeats (base ++ additions outcomes))[j].Echoes
      (suffixRepeats (base ++ additions outcomes))[i]
    rw [getElem_suffixRepeats _ i hi (hlen ▸ hi), getElem_suffixRepeats _ j hj (hlen ▸ hj)]
    rw [Finding.echoes_iff] at hnot ⊢
    exact hnot
  echoed := by
    intro draft hmem
    obtain ⟨f, hread, g, hg, hecho⟩ := h.exists_echoes hmem
    obtain ⟨g', hg', hnumbered⟩ := exists_mem_right (forall₂_suffixRepeats _) hg
    exact ⟨f, hread, g', hg', hnumbered.echoes_iff.mpr hecho⟩

/-- A supplement judges the drafts one after another; all else follows from the outcomes. -/
theorem supplement_eq_ok_iff_areJudged {r : Supplemented} :
    supplement base supplemental = .ok r ↔
      (∀ draft ∈ supplemental, draft.IsIdentifiable) ∧
        ∃ outcomes, AreJudged base supplemental outcomes ∧ r = .ofOutcomes base outcomes := by
  have hknows := DuplicateIndex.knows_foldl_add base
  simp only [supplement_eq_ok_iff, judgeAll_eq_ok_iff hknows, and_assoc, exists_and_left]

/-- A supplement has a result iff an id and a key can be made for every draft. -/
theorem exists_supplement_eq_ok_iff (base : List Finding) (supplemental : List Draft) :
    (∃ r, supplement base supplemental = .ok r) ↔
      ∀ draft ∈ supplemental, draft.IsIdentifiable := by
  constructor
  · rintro ⟨r, h⟩
    exact (supplement_eq_ok_iff_areJudged.mp h).1
  · intro hids
    obtain ⟨outcomes, hjudged⟩ := exists_areJudged base supplemental
    exact ⟨_, supplement_eq_ok_iff_areJudged.mpr ⟨hids, outcomes, hjudged, rfl⟩⟩

/-- A supplement extends the first pass iff an id and a key can be made for every draft, and fails
otherwise. -/
theorem supplement_extends_iff (base : List Finding) (supplemental : List Draft) :
    ((∃ r outcomes, supplement base supplemental = .ok r ∧
        r.Extends base supplemental outcomes) ↔
      ∀ draft ∈ supplemental, draft.IsIdentifiable) ∧
    ((∃ e, supplement base supplemental = .error e) ↔
      ∃ draft ∈ supplemental, ¬ draft.IsIdentifiable) := by
  constructor
  · rw [← exists_supplement_eq_ok_iff base supplemental]
    constructor
    · rintro ⟨r, outcomes, h, -⟩
      exact ⟨r, h⟩
    · rintro ⟨r, h⟩
      obtain ⟨-, outcomes, hjudged, rfl⟩ := supplement_eq_ok_iff_areJudged.mp h
      exact ⟨_, outcomes, h, extends_ofOutcomes hjudged⟩
  · have hnot : (∃ draft ∈ supplemental, ¬ draft.IsIdentifiable) ↔
        ¬ ∃ r, supplement base supplemental = .ok r := by
      rw [exists_supplement_eq_ok_iff]
      simp
    rw [hnot]
    cases supplement base supplemental with
    | ok r => simp
    | error e => simp

/-- A draft for which no id can be made leaves a supplement without a result. -/
theorem not_extends_loneSurrogate :
    ¬ ∃ r outcomes, supplement [] [loneSurrogate] = .ok r ∧
      r.Extends [] [loneSurrogate] outcomes := by
  have hfails : supplement [] [loneSurrogate] = .error .unencodable := by decide +kernel
  rw [hfails]
  simp

end Triage
