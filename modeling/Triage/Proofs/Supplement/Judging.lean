import Triage.Proofs.Finding.Numbering
import Triage.Proofs.Traversal
import Triage.Supplement

/-!
# What a second pass repeats

A finding echoes another one if both are of one path, category and title and at most eight lines
apart. An index that knows some findings finds exactly those duplicates that echo one of them
(`Knows.isDuplicate_iff`): the exact places that it keeps never decide. So each draft of a second
pass is judged by what was said before it, in the first pass or by a draft that was added
(`judgeAll_eq_ok_iff`).
-/

namespace Triage

/-! ### Echoes -/

/-- Whether a finding says of a file what another one says of it, at most eight lines away. -/
structure Finding.Echoes (f g : Finding) : Prop where
  path : Path.relative g.path = Path.relative f.path
  category : g.category = f.category
  title : plainTitle g.title = plainTitle f.title
  behind : g.line ≤ f.line + 8
  ahead : f.line ≤ g.line + 8

/-- Findings echo each other on one topic and within the distance that an index looks at. -/
theorem Finding.echoes_iff {f g : Finding} :
    f.Echoes g ↔ g.topicKey = f.topicKey ∧ lineDistance g.line f.line ≤ nearbyLines := by
  unfold topicKey lineDistance nearbyLines
  rw [TopicKey.mk.injEq]
  constructor
  · rintro ⟨hpath, hcategory, htitle, hbehind, hahead⟩
    exact ⟨⟨hpath, hcategory, htitle⟩, by omega⟩
  · rintro ⟨⟨hpath, hcategory, htitle⟩, hnear⟩
    exact ⟨hpath, hcategory, htitle, by omega, by omega⟩

theorem Finding.echoes_self (f : Finding) : f.Echoes f :=
  ⟨rfl, rfl, rfl, Nat.le_add_right _ _, Nat.le_add_right _ _⟩

/-- An echo is heard whatever number stands behind ids and keys. -/
theorem Finding.IsNumbered.echoes_iff {f g h : Finding} (hnumbered : g.IsNumbered h) :
    f.Echoes h ↔ f.Echoes g := by
  obtain ⟨j, k, rfl⟩ := hnumbered
  rw [Finding.echoes_iff, Finding.echoes_iff]
  exact Iff.rfl

/-! ### The index -/

namespace DuplicateIndex

variable {d : DuplicateIndex} {said : List Finding}

/-- Whether an index holds the places of findings and the lines of their topics, and no others. -/
structure Knows (d : DuplicateIndex) (said : List Finding) : Prop where
  placed : ∀ place, place ∈ d.placed ↔ ∃ g ∈ said, g.placedKey = place
  lines : ∀ topic n, n ∈ d.linesOn topic ↔ ∃ g ∈ said, g.topicKey = topic ∧ g.line = n

theorem knows_empty : Knows .empty [] where
  placed := by
    intro place
    simp [empty]
  lines := by
    intro topic n
    simp [linesOn, empty]

theorem linesOn_add (d : DuplicateIndex) (f : Finding) (topic : TopicKey) :
    (d.add f).linesOn topic =
      if topic = f.topicKey then d.linesOn f.topicKey ++ [f.line] else d.linesOn topic := by
  rw [linesOn, add, OrderedMap.get?_insert]
  split_ifs with h
  · rfl
  · rfl

/-- An index that is given one more finding knows it as well. -/
theorem Knows.add (h : d.Knows said) (f : Finding) : (d.add f).Knows (said ++ [f]) where
  placed := by
    intro place
    show place ∈ f.placedKey :: d.placed ↔ _
    rw [List.mem_cons, h.placed]
    simp only [List.mem_append, List.mem_singleton, or_and_right, exists_or, exists_eq_left]
    rw [or_comm, eq_comm (a := place)]
  lines := by
    intro topic n
    rw [linesOn_add]
    simp only [List.mem_append, List.mem_singleton, or_and_right, exists_or, exists_eq_left]
    split_ifs with htopic
    · subst htopic
      rw [List.mem_append, h.lines, List.mem_singleton]
      simp only [true_and, eq_comm (a := n)]
    · rw [h.lines]
      simp only [Ne.symm htopic, false_and, or_false]

theorem Knows.foldl_add (h : d.Knows said) (more : List Finding) :
    (more.foldl DuplicateIndex.add d).Knows (said ++ more) := by
  induction more generalizing d said with
  | nil =>
    rw [List.append_nil]
    exact h
  | cons f rest ih =>
    have hrest := ih (h.add f)
    rwa [List.append_assoc] at hrest

/-- An index made of findings knows them. -/
theorem knows_foldl_add (findings : List Finding) :
    (findings.foldl DuplicateIndex.add .empty).Knows findings := by
  have h := knows_empty.foldl_add findings
  rwa [List.nil_append] at h

/-- A duplicate is what echoes a finding that the index knows. -/
theorem Knows.isDuplicate_iff (h : d.Knows said) (f : Finding) :
    d.isDuplicate f = true ↔ ∃ g ∈ said, f.Echoes g := by
  rw [isDuplicate, Bool.or_eq_true, decide_eq_true_iff, h.placed, List.any_eq_true]
  simp only [h.lines, decide_eq_true_iff, Finding.echoes_iff]
  constructor
  · rintro (⟨g, hg, hplace⟩ | ⟨n, ⟨g, hg, htopic, rfl⟩, hnear⟩)
    · -- What is at the same place is on the same topic, at no distance.
      have htopic : g.topicKey = f.topicKey := congrArg PlacedKey.topic hplace
      have hline : g.line = f.line := congrArg PlacedKey.line hplace
      refine ⟨g, hg, htopic, ?_⟩
      rw [hline]
      exact (Finding.echoes_iff.mp f.echoes_self).2
    · exact ⟨g, hg, htopic, hnear⟩
  · rintro ⟨g, hg, htopic, hnear⟩
    exact Or.inr ⟨g.line, ⟨g, hg, htopic, rfl⟩, hnear⟩

end DuplicateIndex

/-! ### One draft -/

/-- Whether an id and a key can be made for a draft, if it is a finding. -/
def Draft.IsIdentifiable (draft : Draft) : Prop :=
  ∀ f, draft.read = .ok f → f.isIdentifiable = true

/-- What becomes of a draft, by what was said before it. -/
inductive JudgedAs (said : List Finding) (draft : Draft) : SupplementOutcome → Prop
  | invalid {e : FindingError} (unreadable : draft.read = .error e) : JudgedAs said draft .invalid
  | lowValue {f : Finding} (read : draft.read = .ok f) (minor : f.canonical.isMinor = true) :
    JudgedAs said draft .lowValue
  | duplicate {f g : Finding} (read : draft.read = .ok f) (worthy : f.canonical.isMinor = false)
    (known : g ∈ said) (echo : f.canonical.Echoes g) : JudgedAs said draft .duplicate
  | added {f : Finding} (read : draft.read = .ok f) (worthy : f.canonical.isMinor = false)
    (fresh : ∀ g ∈ said, ¬ f.canonical.Echoes g) : JudgedAs said draft (.added f.canonical)

theorem Finding.toCanonical_eq_ok_iff {f g : Finding} :
    f.toCanonical = .ok g ↔ f.isIdentifiable = true ∧ g = f.canonical := by
  unfold toCanonical
  cases f.isIdentifiable with
  | false => simp
  | true => simp [eq_comm]

variable {d : DuplicateIndex} {said : List Finding} {draft : Draft} {drafts : List Draft}

/-- The judgement on a finding follows the index. -/
theorem judgedAs_iff_of_read (h : d.Knows said) {f : Finding} (hread : draft.read = .ok f)
    {outcome : SupplementOutcome} :
    JudgedAs said draft outcome ↔ judgeCanonical d f.canonical = outcome := by
  have hdup := h.isDuplicate_iff f.canonical
  unfold judgeCanonical
  constructor
  · intro hjudged
    cases hjudged with
    | invalid unreadable =>
      rw [hread] at unreadable
      exact absurd unreadable (by simp)
    | lowValue read minor =>
      obtain rfl := Except.ok.inj (hread.symm.trans read)
      rw [if_pos minor]
    | duplicate read worthy known echo =>
      obtain rfl := Except.ok.inj (hread.symm.trans read)
      rw [if_neg (by simp [worthy]), if_pos (hdup.mpr ⟨_, known, echo⟩)]
    | added read worthy fresh =>
      obtain rfl := Except.ok.inj (hread.symm.trans read)
      have hnot : ¬ d.isDuplicate f.canonical = true := by
        rw [hdup]
        rintro ⟨g, hg, hecho⟩
        exact fresh g hg hecho
      rw [if_neg (by simp [worthy]), if_neg hnot]
  · rintro rfl
    split_ifs with hminor hknown
    · exact .lowValue hread hminor
    · obtain ⟨g, hg, hecho⟩ := hdup.mp hknown
      exact .duplicate hread (Bool.eq_false_iff.mpr hminor) hg hecho
    · refine .added hread (Bool.eq_false_iff.mpr hminor) ?_
      intro g hg hecho
      exact hknown (hdup.mpr ⟨g, hg, hecho⟩)

/-- A draft is judged by what was said before it, if an id and a key can be made for it. -/
theorem judge_eq_ok_iff (h : d.Knows said) {outcome : SupplementOutcome} :
    judge d draft = .ok outcome ↔ draft.IsIdentifiable ∧ JudgedAs said draft outcome := by
  unfold judge Draft.IsIdentifiable
  cases hread : draft.read with
  | error e =>
    simp only [Except.ok.injEq, reduceCtorEq, false_implies, implies_true, true_and]
    constructor
    · rintro rfl
      exact .invalid hread
    · intro hjudged
      cases hjudged with
      | invalid _ => rfl
      | lowValue read _ => exact absurd (hread.symm.trans read) (by simp)
      | duplicate read _ _ _ => exact absurd (hread.symm.trans read) (by simp)
      | added read _ _ => exact absurd (hread.symm.trans read) (by simp)
  | ok f =>
    rw [judgedAs_iff_of_read h hread]
    simp only [Except.ok.injEq, forall_eq']
    constructor
    · intro hmap
      obtain ⟨g, hg, houtcome⟩ := exists_ok_of_map_eq_ok hmap
      obtain ⟨hid, rfl⟩ := Finding.toCanonical_eq_ok_iff.mp hg
      exact ⟨hid, houtcome⟩
    · rintro ⟨hid, rfl⟩
      rw [Finding.toCanonical_eq_ok_iff.mpr ⟨hid, rfl⟩]
      rfl

/-- Every draft has a judgement. -/
theorem exists_judgedAs (said : List Finding) (draft : Draft) :
    ∃ outcome, JudgedAs said draft outcome := by
  cases hread : draft.read with
  | error e => exact ⟨_, .invalid hread⟩
  | ok f =>
    have hknows := DuplicateIndex.knows_foldl_add said
    exact ⟨_, (judgedAs_iff_of_read hknows hread).mpr rfl⟩

/-! ### All drafts -/

/-- What becomes of drafts one after another: what was added is said before the drafts behind. -/
inductive AreJudged : List Finding → List Draft → List SupplementOutcome → Prop
  | nil {said : List Finding} : AreJudged said [] []
  | cons {said : List Finding} {draft : Draft} {drafts : List Draft} {outcome : SupplementOutcome}
    {outcomes : List SupplementOutcome} (head : JudgedAs said draft outcome)
    (tail : AreJudged (said ++ outcome.finding?.toList) drafts outcomes) :
    AreJudged said (draft :: drafts) (outcome :: outcomes)

theorem DuplicateIndex.Knows.after (h : d.Knows said) (outcome : SupplementOutcome) :
    (d.after outcome).Knows (said ++ outcome.finding?.toList) := by
  cases outcome with
  | added f => exact h.add f
  | _ =>
    simp only [SupplementOutcome.finding?, Option.toList_none, List.append_nil]
    exact h

theorem judgeAll_cons_eq_ok_iff {outcomes : List SupplementOutcome} :
    judgeAll d (draft :: drafts) = .ok outcomes ↔
      ∃ outcome rest, judge d draft = .ok outcome ∧
        judgeAll (d.after outcome) drafts = .ok rest ∧ outcomes = outcome :: rest := by
  rw [judgeAll]
  cases judge d draft with
  | error e => simp [bind, Except.bind]
  | ok outcome =>
    simp only [bind, Except.bind, Except.ok.injEq, exists_and_left, exists_eq_left']
    cases judgeAll (d.after outcome) drafts with
    | error e => simp
    | ok rest => simp [pure, Except.pure, eq_comm]

/-- The drafts are judged one after another, if an id and a key can be made for each of them. -/
theorem judgeAll_eq_ok_iff (h : d.Knows said) {outcomes : List SupplementOutcome} :
    judgeAll d drafts = .ok outcomes ↔
      (∀ draft ∈ drafts, draft.IsIdentifiable) ∧ AreJudged said drafts outcomes := by
  induction drafts generalizing d said outcomes with
  | nil =>
    simp only [judgeAll, Except.ok.injEq, List.not_mem_nil, false_implies, implies_true, true_and]
    constructor
    · rintro rfl
      exact .nil
    · intro hjudged
      cases hjudged
      rfl
  | cons draft drafts ih =>
    rw [judgeAll_cons_eq_ok_iff, List.forall_mem_cons]
    constructor
    · rintro ⟨outcome, rest, hhead, htail, rfl⟩
      obtain ⟨hid, hjudged⟩ := (judge_eq_ok_iff h).mp hhead
      obtain ⟨hids, hrest⟩ := (ih (h.after outcome)).mp htail
      exact ⟨⟨hid, hids⟩, .cons hjudged hrest⟩
    · rintro ⟨⟨hid, hids⟩, hjudged⟩
      cases hjudged with
      | cons head tail =>
        exact ⟨_, _, (judge_eq_ok_iff h).mpr ⟨hid, head⟩,
          (ih (h.after _)).mpr ⟨hids, tail⟩, rfl⟩

theorem exists_areJudged (said : List Finding) (drafts : List Draft) :
    ∃ outcomes, AreJudged said drafts outcomes := by
  induction drafts generalizing said with
  | nil => exact ⟨[], .nil⟩
  | cons draft drafts ih =>
    obtain ⟨outcome, hhead⟩ := exists_judgedAs said draft
    obtain ⟨outcomes, htail⟩ := ih (said ++ outcome.finding?.toList)
    exact ⟨_, .cons hhead htail⟩

end Triage
