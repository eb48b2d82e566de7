import Triage.Proofs.Finding.Numbering
import Triage.Proofs.Matching.Semantic

/-!
# The best restatement

A finding is matched by its words to the first prior finding of the highest score among those that
are eligible: unclaimed, on the same topic, and with a title that is like enough (`IsEligible`). It
is matched to none if no eligible one scores enough. So what is not eligible has no say, wherever it
stands, and neither have further claims unless they take the one that was found
(`semanticMatch_isFirstBest`).
-/

namespace Triage

variable {f : Finding} {p q : PriorFinding} {candidates : List PriorFinding}
  {claimed more : List StoreId}

/-! ### The first best of a list -/

namespace IsFirstBest

variable {α β : Type} {counts : α → Prop} {score : α → Double} {items : List α} {a b : α}

/-- There is at most one first item of the highest score. -/
theorem unique (ha : IsFirstBest counts score items a) (hb : IsFirstBest counts score items b) :
    a = b := by
  obtain ⟨before, after, heq, hbefore, hafter⟩ := ha.place
  obtain ⟨before', after', heq', hbefore', hafter'⟩ := hb.place
  rcases List.append_eq_append_iff.mp (heq.symm.trans heq') with ⟨between, hsplit, htail⟩ |
    ⟨between, hsplit, htail⟩
  · cases between with
    | nil => exact (List.cons.inj htail).1
    | cons c between =>
      -- One of them stands in front of the other, which is behind it and must be better.
      obtain ⟨rfl, rfl⟩ := List.cons.inj htail
      have hlt := hbefore' a (hsplit ▸ by simp) ha.counted
      exact absurd (hafter b (by simp) hb.counted) (Double.not_le_of_lt hlt)
  · cases between with
    | nil => exact (List.cons.inj htail).1.symm
    | cons c between =>
      obtain ⟨rfl, rfl⟩ := List.cons.inj htail
      have hlt := hbefore b (hsplit ▸ by simp) hb.counted
      exact absurd (hafter' a (by simp) ha.counted) (Double.not_le_of_lt hlt)

/-- The first best of what a list keeps, made into something else, comes from the first best item of
the list that it keeps. -/
theorem exists_of_map_filter [DecidablePred counts] {make : α → β} {value : β → Double} {c : β}
    (h : IsFirstBest (fun _ => True) value ((items.filter (counts ·)).map make) c) :
    ∃ a, make a = c ∧ IsFirstBest counts (fun a => value (make a)) items a := by
  obtain ⟨before, after, heq, hbefore, hafter⟩ := h.place
  obtain ⟨kept, kept', hkept, rfl, hmap⟩ := List.map_eq_append_iff.mp heq
  obtain ⟨a, rest, rfl, rfl, rfl⟩ := List.map_eq_cons_iff.mp hmap
  obtain ⟨front, back, rfl, rfl, hback⟩ := List.filter_eq_append_iff.mp hkept
  obtain ⟨passed, behind, rfl, hpassed, ha, rfl⟩ := List.filter_eq_cons_iff.mp hback
  refine ⟨a, rfl, of_decide_eq_true ha, front ++ passed, behind, by simp, ?_, ?_⟩
  · intro b hb hcounts
    have hfront : b ∈ front := by
      rcases List.mem_append.mp hb with hb | hb
      · exact hb
      · exact absurd (decide_eq_true hcounts) (hpassed b hb)
    have hmem : b ∈ front.filter (counts ·) := List.mem_filter.mpr ⟨hfront, decide_eq_true hcounts⟩
    exact hbefore _ (List.mem_map_of_mem hmem) trivial
  · intro b hb hcounts
    have hmem : b ∈ behind.filter (counts ·) := List.mem_filter.mpr ⟨hb, decide_eq_true hcounts⟩
    exact hafter _ (List.mem_map_of_mem hmem) trivial

end IsFirstBest

/-! ### Eligible prior findings -/

/-- How well the title of a prior finding agrees with that of a finding. -/
def Finding.titleLikeness (f : Finding) (p : PriorFinding) : Double :=
  jaccard (Text.tokens f.title) (Text.tokens p.title)

/-- The lines between a finding and a prior one. -/
def Finding.linesFrom (f : Finding) (p : PriorFinding) : ℕ :=
  ((p.line : ℤ) - f.line).natAbs

/-- How well a prior finding agrees with a finding in all. -/
def Finding.scoreOf (f : Finding) (p : PriorFinding) : Double :=
  (compareWith f p).score

/-- Whether a prior finding may be the one that a finding restates: nobody claimed it, it is on the
same topic in the same file, and the titles are like enough, the more so the further the lines are
apart. -/
structure Finding.IsEligible (f : Finding) (claimed : List StoreId) (p : PriorFinding) : Prop where
  unclaimed : p.id ∉ claimed
  path : Path.relative p.path = Path.relative f.path
  category : p.category = f.category
  title : strongTitle ≤ f.titleLikeness p ∨
    0 < f.titleLikeness p ∧ closeTitle ≤ f.titleLikeness p ∧ f.linesFrom p ≤ closeLines

instance (f : Finding) (claimed : List StoreId) : DecidablePred (f.IsEligible claimed) := fun p =>
  decidable_of_iff (p.id ∉ claimed ∧ Path.relative p.path = Path.relative f.path ∧
      p.category = f.category ∧ (strongTitle ≤ f.titleLikeness p ∨
        0 < f.titleLikeness p ∧ closeTitle ≤ f.titleLikeness p ∧ f.linesFrom p ≤ closeLines))
    ⟨fun ⟨hnew, hpath, hcategory, htitle⟩ => ⟨hnew, hpath, hcategory, htitle⟩,
      fun h => ⟨h.unclaimed, h.path, h.category, h.title⟩⟩

/-- Further claims make nothing eligible. -/
theorem Finding.IsEligible.of_subset (h : f.IsEligible more p) (hsub : claimed ⊆ more) :
    f.IsEligible claimed p :=
  { h with unclaimed := fun hmem => h.unclaimed (hsub hmem) }

theorem distance_compareWith (f : Finding) (p : PriorFinding) :
    (compareWith f p).distance = f.linesFrom p := by
  unfold compareWith Finding.linesFrom
  dsimp only
  omega

theorem title_compareWith (f : Finding) (p : PriorFinding) :
    (compareWith f p).title = f.titleLikeness p := by
  simp only [compareWith, Finding.titleLikeness]

/-- A likeness that is enough at any distance is not zero. -/
theorem isPlausible_compareWith_iff :
    (compareWith f p).isPlausible = true ↔ strongTitle ≤ f.titleLikeness p ∨
      0 < f.titleLikeness p ∧ closeTitle ≤ f.titleLikeness p ∧ f.linesFrom p ≤ closeLines := by
  have hpositive : (0 : Double) < strongTitle := by decide +kernel
  unfold Comparison.isPlausible
  rw [distance_compareWith, title_compareWith, Bool.and_eq_true, Bool.or_eq_true, Bool.and_eq_true,
    decide_eq_true_iff, decide_eq_true_iff, decide_eq_true_iff, decide_eq_true_iff]
  constructor
  · rintro ⟨hlike, hstrong | ⟨hclose, hlines⟩⟩
    · exact Or.inl hstrong
    · exact Or.inr ⟨hlike, hclose, hlines⟩
  · rintro (hstrong | ⟨hlike, hclose, hlines⟩)
    · exact ⟨Double.lt_of_lt_of_le hpositive hstrong, Or.inl hstrong⟩
    · exact ⟨hlike, Or.inr ⟨hclose, hlines⟩⟩

/-- The eligible prior findings are the ones that nobody claimed and that have a score. -/
theorem isEligible_iff :
    f.IsEligible claimed p ↔ p.id ∉ claimed ∧ matchScore? f p = some (f.scoreOf p) := by
  have htopic : sameTopic f p = true ↔
      Path.relative p.path = Path.relative f.path ∧ p.category = f.category := by
    unfold sameTopic
    rw [Bool.and_eq_true, decide_eq_true_iff, decide_eq_true_iff]
  have hscore : matchScore? f p = some (f.scoreOf p) ↔
      sameTopic f p = true ∧ (compareWith f p).isPlausible = true := by
    unfold matchScore? Finding.scoreOf
    simp only [Bool.and_eq_true, ite_eq_left_iff, reduceCtorEq, imp_false, not_not]
  rw [hscore, htopic, isPlausible_compareWith_iff]
  constructor
  · intro h
    exact ⟨h.unclaimed, ⟨h.path, h.category⟩, h.title⟩
  · rintro ⟨hnew, ⟨hpath, hcategory⟩, htitle⟩
    exact ⟨hnew, hpath, hcategory, htitle⟩

theorem scoreOf_eq_of_matchScore {score : Double} (h : matchScore? f p = some score) :
    score = f.scoreOf p := by
  unfold matchScore? at h
  simp only [Option.ite_none_right_eq_some] at h
  exact (Option.some.inj h.2).symm

/-- The contenders are the eligible prior findings in their order, each with its score. -/
theorem contenders_eq (f : Finding) (candidates : List PriorFinding) (claimed : List StoreId) :
    contenders f candidates claimed =
      (candidates.filter (f.IsEligible claimed ·)).map fun p => ⟨p, f.scoreOf p⟩ := by
  unfold contenders
  rw [← List.filterMap_eq_map, List.filterMap_filter, List.filterMap_filter]
  apply List.filterMap_congr
  intro p _
  by_cases hnew : p.id ∈ claimed
  · have hnot : ¬ f.IsEligible claimed p := fun h => h.unclaimed hnew
    simp [hnew, hnot]
  · cases hscore : matchScore? f p with
    | none =>
      have hnot : ¬ f.IsEligible claimed p := fun h => by
        simpa [hscore] using (isEligible_iff.mp h).2
      simp [hnot]
    | some score =>
      have heq := scoreOf_eq_of_matchScore hscore
      have hyes : f.IsEligible claimed p := isEligible_iff.mpr ⟨hnew, heq ▸ hscore⟩
      simp [hnew, hyes, heq]

/-! ### The match -/

/-- Whether a prior finding is the first of the highest score among the eligible ones of a list, and
scores enough. -/
def Finding.IsBestRestated (f : Finding) (candidates : List PriorFinding) (claimed : List StoreId)
    (p : PriorFinding) : Prop :=
  IsFirstBest (f.IsEligible claimed) f.scoreOf candidates p ∧ minMatchScore ≤ f.scoreOf p

/-- What is matched is the first best, and nothing is matched only if nothing eligible scores
enough. -/
theorem isBestRestated_or_low (f : Finding) (candidates : List PriorFinding)
    (claimed : List StoreId) :
    (∃ p, semanticMatch f candidates claimed = some p ∧ f.IsBestRestated candidates claimed p) ∨
    (semanticMatch f candidates claimed = none ∧
      ∀ p ∈ candidates, f.IsEligible claimed p → f.scoreOf p < minMatchScore) := by
  rcases semanticMatch_cases f candidates claimed with ⟨c, hmatch, henough, hfirst⟩ | ⟨hnone, hlow⟩
  · rw [contenders_eq] at hfirst
    obtain ⟨p, rfl, hp⟩ := hfirst.exists_of_map_filter
    exact Or.inl ⟨p, hmatch, hp, henough⟩
  · refine Or.inr ⟨hnone, fun p hp heligible => ?_⟩
    obtain ⟨hnew, hscore⟩ := isEligible_iff.mp heligible
    exact hlow ⟨p, f.scoreOf p⟩ (mem_contenders_iff.mpr ⟨hp, hnew, hscore⟩)

theorem semanticMatch_eq_some_iff :
    semanticMatch f candidates claimed = some p ↔ f.IsBestRestated candidates claimed p := by
  rcases isBestRestated_or_low f candidates claimed with ⟨q, hmatch, hq⟩ | ⟨hnone, hlow⟩
  · rw [hmatch, Option.some.injEq]
    constructor
    · rintro rfl
      exact hq
    · exact fun hp => hq.1.unique hp.1
  · rw [hnone]
    refine iff_of_false (by simp) fun hp => ?_
    exact Double.not_le_of_lt (hlow p hp.1.mem hp.1.counted) hp.2

theorem semanticMatch_eq_none_iff :
    semanticMatch f candidates claimed = none ↔
      ∀ p ∈ candidates, f.IsEligible claimed p → f.scoreOf p < minMatchScore := by
  rcases isBestRestated_or_low f candidates claimed with ⟨q, hmatch, hq⟩ | ⟨hnone, hlow⟩
  · rw [hmatch]
    refine iff_of_false (by simp) fun hlow => ?_
    exact Double.not_le_of_lt (hlow q hq.1.mem hq.1.counted) hq.2
  · exact iff_of_true hnone hlow

/-- What is not eligible has no say. -/
theorem semanticMatch_eq_of_filter_eq {others : List PriorFinding}
    (h : others.filter (f.IsEligible claimed ·) = candidates.filter (f.IsEligible claimed ·)) :
    semanticMatch f others claimed = semanticMatch f candidates claimed := by
  rw [semanticMatch, semanticMatch, contenders_eq, contenders_eq, h]

/-- Further claims that leave the match alone do not change it. -/
theorem semanticMatch_eq_of_subset (hsub : claimed ⊆ more)
    (h : ∀ p, semanticMatch f candidates claimed = some p → p.id ∉ more) :
    semanticMatch f candidates more = semanticMatch f candidates claimed := by
  cases hmatch : semanticMatch f candidates claimed with
  | none =>
    rw [semanticMatch_eq_none_iff] at hmatch ⊢
    exact fun p hp heligible => hmatch p hp (heligible.of_subset hsub)
  | some p =>
    have hfree := h p hmatch
    rw [semanticMatch_eq_some_iff] at hmatch ⊢
    obtain ⟨⟨heligible, before, after, heq, hbefore, hafter⟩, henough⟩ := hmatch
    -- Fewer are eligible now, and what was found is still among them.
    refine ⟨⟨{ heligible with unclaimed := hfree }, before, after, heq, ?_, ?_⟩, henough⟩
    · exact fun q hq hq' => hbefore q hq (hq'.of_subset hsub)
    · exact fun q hq hq' => hafter q hq (hq'.of_subset hsub)

/-- A finding is matched by its words to the first eligible prior finding of the highest score if
that is enough, and to none otherwise. What is not eligible has no say, and neither have further
claims that leave the match alone. -/
theorem semanticMatch_isFirstBest (f : Finding) (candidates : List PriorFinding)
    (claimed : List StoreId) :
    (∀ p, semanticMatch f candidates claimed = some p ↔ f.IsBestRestated candidates claimed p) ∧
    (semanticMatch f candidates claimed = none ↔
      ∀ p ∈ candidates, f.IsEligible claimed p → f.scoreOf p < minMatchScore) ∧
    (∀ others : List PriorFinding,
      others.filter (f.IsEligible claimed ·) = candidates.filter (f.IsEligible claimed ·) →
      semanticMatch f others claimed = semanticMatch f candidates claimed) ∧
    ∀ more, claimed ⊆ more → (∀ p, semanticMatch f candidates claimed = some p → p.id ∉ more) →
      semanticMatch f candidates more = semanticMatch f candidates claimed :=
  ⟨fun _ => semanticMatch_eq_some_iff, semanticMatch_eq_none_iff,
    fun _ => semanticMatch_eq_of_filter_eq, fun _ => semanticMatch_eq_of_subset⟩

/-- A remark of an earlier run, under a number of the store. -/
def priorRemark (number : ℤ) (title : String) (line : ℕ) : PriorFinding where
  id := .number number
  path := "src/a.py"
  line := line
  side := .right
  severity := .important
  category := .bug
  title := title
  body := "The value may be null here"
  fingerprint := none
  hunkHash := none

/-- Prior remarks of which the first one is on another file, the second one says the same, the next
two say nearly the same, and the last one says something else. -/
def rivals : List PriorFinding :=
  [{ priorRemark 1 "cache entry may be lost" 10 with path := "src/b.py" },
    priorRemark 2 "cache entry may be lost" 10, priorRemark 3 "cache entry lost" 11,
    priorRemark 4 "lost cache entry" 11, priorRemark 5 "wrong unit in the log" 10]

/-- With the second one claimed, the first of the two that say nearly the same is found. -/
theorem semanticMatch_isFirstBest_rivals :
    let f := remark "a" "cache entry may be lost" 10
    ∃ p, p.id = .number 3 ∧ f.IsBestRestated rivals [.number 2] p ∧
      semanticMatch f (rivals.filter (f.IsEligible [.number 2] ·)) [.number 2] = some p ∧
      semanticMatch f rivals [.number 4, .number 2, .number 1] = some p := by
  intro f
  have hfound : (semanticMatch f rivals [.number 2]).map PriorFinding.id = some (.number 3) := by
    decide +kernel
  obtain ⟨p, hp, hid⟩ := Option.map_eq_some_iff.mp hfound
  obtain ⟨hbest, -, hothers, hmore⟩ := semanticMatch_isFirstBest f rivals [.number 2]
  refine ⟨p, hid, (hbest p).mp hp, ?_, ?_⟩
  · rw [hothers _ (by simp), hp]
  · rw [hmore _ (by simp), hp]
    intro q hq
    obtain rfl : p = q := Option.some.inj (hp.symm.trans hq)
    rw [hid]
    decide

end Triage
