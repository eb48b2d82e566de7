import Triage.Matching.Similarity
import Triage.Proofs.Matching.Similarity
import Triage.Proofs.Rank

/-!
# What a finding restates

The scores are numbers, so running through the contenders ends at the first one of the highest score
(`foldl_better_cases`). So the prior finding that a finding is matched to by its words is one of the
store that nobody claimed and that the finding restates (`semanticMatch_spec`), and there is a match
whenever the finding restates something that is free (`exists_semanticMatch`).
-/

namespace Triage

variable {prior : List PriorFinding} {claimed : List StoreId} {f : Finding}

/-- Whether a finding restates a prior one: the two are on one topic, and score enough. -/
def Finding.Restates (f : Finding) (p : PriorFinding) : Prop :=
  ∃ score, matchScore? f p = some score ∧ minMatchScore ≤ score

instance (f : Finding) (p : PriorFinding) : Decidable (f.Restates p) :=
  decidable_of_iff ((matchScore? f p).any (minMatchScore ≤ ·) = true) <| by
    unfold Finding.Restates
    simp [Option.any_eq_true]

/-! ### The first of the highest score -/

/-- Whether an item is the first of the highest score among those of a list that count. -/
structure IsFirstBest {α : Type} (counts : α → Prop) (score : α → Double) (items : List α)
    (a : α) : Prop where
  counted : counts a
  place : ∃ before after, items = before ++ a :: after ∧
    (∀ b ∈ before, counts b → score b < score a) ∧ ∀ b ∈ after, counts b → score b ≤ score a

namespace IsFirstBest

variable {α : Type} {counts : α → Prop} {score : α → Double} {items : List α} {a b : α}

theorem mem (h : IsFirstBest counts score items a) : a ∈ items := by
  obtain ⟨before, after, rfl, -⟩ := h.place
  exact List.mem_append_right before (List.mem_cons_self ..)

/-- No item that counts has a higher score. -/
theorem score_le (h : IsFirstBest counts score items a) (hnumber : (score a).rank?.isSome = true)
    (hb : b ∈ items) (hcounts : counts b) : score b ≤ score a := by
  obtain ⟨before, after, rfl, hbefore, hafter⟩ := h.place
  rcases List.mem_append.mp hb with hb | hb
  · exact Double.le_of_lt (hbefore b hb hcounts)
  · rcases List.mem_cons.mp hb with rfl | hb
    · exact Double.le_refl hnumber
    · exact hafter b hb hcounts

end IsFirstBest

/-- The score that the next contender has to beat. -/
def bar (best : Option Contender) : Double :=
  (best.map Contender.score).getD 0

/-- If all scores are numbers, a run through contenders keeps the best one that it started with if
none is better, and otherwise it ends at the first one of the highest score. -/
theorem foldl_better_cases {contenders : List Contender} {best : Option Contender}
    (hbest : (bar best).rank?.isSome = true)
    (hall : ∀ c ∈ contenders, c.score.rank?.isSome = true) :
    (contenders.foldl better best = best ∧ ∀ c ∈ contenders, c.score ≤ bar best) ∨
      ∃ c, contenders.foldl better best = some c ∧ bar best < c.score ∧
        IsFirstBest (fun _ => True) Contender.score contenders c := by
  -- The induction is on the contenders; the bar is that of the best one among those passed.
  induction contenders generalizing best with
  | nil => exact Or.inl ⟨rfl, fun c hc => absurd hc List.not_mem_nil⟩
  | cons next rest ih =>
    rw [List.forall_mem_cons] at hall
    by_cases hle : next.score ≤ bar best
    · have hstep : better best next = best := if_pos hle
      rw [List.foldl_cons, hstep]
      rcases ih hbest hall.2 with ⟨hfold, hrest⟩ | ⟨c, hfold, hbar, -, before, after, rfl, hbefore,
        hafter⟩
      · exact Or.inl ⟨hfold, List.forall_mem_cons.mpr ⟨hle, hrest⟩⟩
      · have hnext : next.score < c.score := Double.lt_of_le_of_lt hle hbar
        refine Or.inr ⟨c, hfold, hbar, trivial, next :: before, after, rfl, ?_, hafter⟩
        exact List.forall_mem_cons.mpr ⟨fun _ => hnext, hbefore⟩
    · have hstep : better best next = some next := if_neg hle
      have hrises : bar best < next.score := Double.lt_of_not_le hall.1 hbest hle
      rw [List.foldl_cons, hstep]
      rcases @ih (some next) hall.1 hall.2 with ⟨hfold, hrest⟩ | ⟨c, hfold, hbar, -, before, after,
        rfl, hbefore, hafter⟩
      · exact Or.inr ⟨next, hfold, hrises, trivial, [], rest, rfl,
          fun d hd => absurd hd List.not_mem_nil, fun d hd _ => hrest d hd⟩
      · have hnext : next.score < c.score := hbar
        refine Or.inr ⟨c, hfold, Double.lt_trans hrises hnext, trivial, next :: before, after, rfl,
          ?_, hafter⟩
        exact List.forall_mem_cons.mpr ⟨fun _ => hnext, hbefore⟩

/-! ### Contenders -/

/-- The contenders are those of the store that nobody claimed and that may be matched, each with the
score of its match. -/
theorem mem_contenders_iff {c : Contender} :
    c ∈ contenders f prior claimed ↔
      c.prior ∈ prior ∧ c.prior.id ∉ claimed ∧ matchScore? f c.prior = some c.score := by
  unfold contenders
  rw [List.mem_filterMap]
  constructor
  · rintro ⟨p, hp, hcontender⟩
    rw [List.mem_filter, decide_eq_true_iff] at hp
    rw [Option.map_eq_some_iff] at hcontender
    obtain ⟨score, hscore, rfl⟩ := hcontender
    exact ⟨hp.1, hp.2, hscore⟩
  · rintro ⟨hp, hnew, hscore⟩
    refine ⟨c.prior, ?_, ?_⟩
    · rw [List.mem_filter, decide_eq_true_iff]
      exact ⟨hp, hnew⟩
    · rw [hscore, Option.map_some]

theorem isSome_rank?_of_mem_contenders {c : Contender} (h : c ∈ contenders f prior claimed) :
    c.score.rank?.isSome = true :=
  isSome_rank?_matchScore (mem_contenders_iff.mp h).2.2

/-- A match is the first contender of the highest score, and scores enough. Without a match, no
contender scores enough. -/
theorem semanticMatch_cases (f : Finding) (prior : List PriorFinding) (claimed : List StoreId) :
    (∃ c, semanticMatch f prior claimed = some c.prior ∧ minMatchScore ≤ c.score ∧
      IsFirstBest (fun _ => True) Contender.score (contenders f prior claimed) c) ∨
    (semanticMatch f prior claimed = none ∧
      ∀ c ∈ contenders f prior claimed, c.score < minMatchScore) := by
  have hzero : (bar none).rank?.isSome = true := by decide +kernel
  rcases foldl_better_cases hzero (fun c hc => isSome_rank?_of_mem_contenders hc) with
    ⟨hfold, hlow⟩ | ⟨c, hfold, -, hfirst⟩
  · -- Without a contender the bar is still at zero, below the score that a match needs.
    have hneeds : bar none < minMatchScore := by decide +kernel
    refine Or.inr ⟨?_, fun c hc => Double.lt_of_le_of_lt (hlow c hc) hneeds⟩
    rw [semanticMatch, hfold]
    rfl
  · by_cases henough : minMatchScore ≤ c.score
    · left
      refine ⟨c, ?_, henough, hfirst⟩
      rw [semanticMatch, hfold, Option.filter_some_pos (by simpa using henough), Option.map_some]
    · have hnumber := isSome_rank?_of_mem_contenders hfirst.mem
      have hless : c.score < minMatchScore :=
        Double.lt_of_not_le (by decide +kernel) hnumber henough
      right
      constructor
      · rw [semanticMatch, hfold, Option.filter_some_neg (by simpa using henough), Option.map_none]
      · intro d hd
        exact Double.lt_of_le_of_lt (hfirst.score_le hnumber hd trivial) hless

/-! ### Matches -/

/-- What a finding is matched to by its words is of the store, nobody claimed its id, and the
finding restates it. -/
theorem semanticMatch_spec {p : PriorFinding} (h : semanticMatch f prior claimed = some p) :
    p ∈ prior ∧ p.id ∉ claimed ∧ f.Restates p := by
  rcases semanticMatch_cases f prior claimed with ⟨c, hmatch, henough, hfirst⟩ | ⟨hnone, -⟩
  · obtain rfl : c.prior = p := Option.some.inj (hmatch.symm.trans h)
    obtain ⟨hprior, hclaimed, hscore⟩ := mem_contenders_iff.mp hfirst.mem
    exact ⟨hprior, hclaimed, c.score, hscore, henough⟩
  · exact absurd (hnone.symm.trans h) (by simp)

/-- A finding that restates a prior one that nobody claimed is matched to some prior finding. -/
theorem exists_semanticMatch {p : PriorFinding} (hp : p ∈ prior) (hnew : p.id ∉ claimed)
    (h : f.Restates p) : ∃ q, semanticMatch f prior claimed = some q := by
  obtain ⟨score, hscore, henough⟩ := h
  have hmem : ⟨p, score⟩ ∈ contenders f prior claimed := mem_contenders_iff.mpr ⟨hp, hnew, hscore⟩
  rcases semanticMatch_cases f prior claimed with ⟨c, hmatch, -⟩ | ⟨-, hlow⟩
  · exact ⟨c.prior, hmatch⟩
  · exact absurd henough (Double.not_le_of_lt (hlow _ hmem))

end Triage
