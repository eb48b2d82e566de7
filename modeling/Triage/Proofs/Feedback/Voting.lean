import Triage.Feedback.Vote
import Triage.Proofs.Occurrences
import Mathlib.Data.List.Sort
import Mathlib.Data.String.Basic

/-!
# A fair vote

Events whose sentiments are texts always decide a policy, and only the number of votes of each kind
matters (`votesOf_eq_ok`, `mem_verdict_ofVotes`). So the order of the events does not matter, no
category is both welcome and rejected, and one more vote moves its own category in its own direction
only (`ofEvents_isFair`).
-/

namespace Triage

/-! ### Events -/

/-- Whether a value is an event: a table whose sentiment is a text, if it has one. -/
structure IsEvent (event : Value) : Prop where
  table : event.isTable = true
  sentiment : ∀ v, event.get? "sentiment" = some v → ∃ s, v = .text s

/-- The vote that an event casts, if it casts one. -/
def castVote (categoryOf : String → Option String) (event : Value) : Option Vote :=
  (voteOf categoryOf event).toOption.join

/-- How an event is a vote: a reaction to a finding of a category, or a reply that resolves it. -/
inductive Casts (categoryOf : String → Option String) (event : Value) : Vote → Prop
  | rejection {c s : String} (category : eventCategory categoryOf event = some c)
    (kind : event.get? "type" = some (.text "reaction"))
    (sentiment : event.get? "sentiment" = some (.text s)) (negative : s ∈ negativeReactions) :
    Casts categoryOf event ⟨c, false⟩
  | welcome {c s : String} (category : eventCategory categoryOf event = some c)
    (kind : event.get? "type" = some (.text "reaction"))
    (sentiment : event.get? "sentiment" = some (.text s)) (positive : s ∈ positiveReactions) :
    Casts categoryOf event ⟨c, true⟩
  | resolution {c : String} (category : eventCategory categoryOf event = some c)
    (kind : event.get? "type" = some (.text "reply"))
    (action : event.get? "action" = some (.text "resolved")) : Casts categoryOf event ⟨c, true⟩

variable {categoryOf : String → Option String} {event : Value} {events : List Value}

theorem IsEvent.exists_eventMeaning (h : IsEvent event) : ∃ m, eventMeaning event = .ok m := by
  unfold eventMeaning
  split
  · cases hsentiment : (event.get? "sentiment").bind Value.unlessVoid with
    | none => exact ⟨_, rfl⟩
    | some v =>
      obtain ⟨w, hw, hv⟩ := Option.bind_eq_some_iff.mp hsentiment
      obtain ⟨s, rfl⟩ := h.sentiment w hw
      rw [Value.unlessVoid, Option.ite_none_left_eq_some] at hv
      obtain rfl := Option.some.inj hv.2
      dsimp only [reactionMeaning, Value.text]
      split_ifs
      · exact ⟨_, rfl⟩
      · exact ⟨_, rfl⟩
      · exact ⟨_, rfl⟩
  · exact ⟨_, rfl⟩
  · exact ⟨_, rfl⟩

/-- An event casts a vote or none, and never fails to be read. -/
theorem IsEvent.voteOf_eq (h : IsEvent event) :
    voteOf categoryOf event = .ok (castVote categoryOf event) := by
  have hread : ∃ vote, voteOf categoryOf event = .ok vote := by
    obtain ⟨m, hm⟩ := h.exists_eventMeaning
    unfold voteOf
    rw [if_pos h.table]
    cases eventCategory categoryOf event with
    | none => exact ⟨none, rfl⟩
    | some c => exact ⟨m.map (⟨c, ·⟩), by rw [hm]; rfl⟩
  obtain ⟨vote, hvote⟩ := hread
  rw [castVote, hvote]
  rfl

/-- The votes of events are those that they cast one by one. -/
theorem votesOf_eq_ok
    (h : ∀ event ∈ events, voteOf categoryOf event = .ok (castVote categoryOf event)) :
    votesOf categoryOf events = .ok (events.filterMap (castVote categoryOf)) := by
  induction events with
  | nil => rfl
  | cons event rest ih =>
    rw [List.forall_mem_cons] at h
    rw [votesOf, h.1, ih h.2, List.filterMap_cons]
    cases castVote categoryOf event with
    | none => rfl
    | some vote => rfl

theorem not_mem_positiveReactions {s : String} (h : s ∈ negativeReactions) :
    s ∉ positiveReactions := by
  revert s
  decide

theorem unlessVoid_reaction {s : String} (h : s ∈ positiveReactions ∨ s ∈ negativeReactions) :
    (Value.text s).unlessVoid = some (.text s) := by
  have hvoid : (Value.text s).isVoid = false := by
    rcases h with h | h
    · revert s
      decide
    · revert s
      decide
  rw [Value.unlessVoid, hvoid]
  rfl

/-- A reaction that is known means what it says. -/
theorem eventMeaning_of_reaction {s : String} (kind : event.get? "type" = some (.text "reaction"))
    (sentiment : event.get? "sentiment" = some (.text s))
    (h : s ∈ positiveReactions ∨ s ∈ negativeReactions) :
    eventMeaning event = .ok (some (decide (s ∈ positiveReactions))) := by
  have hknown : s ∉ positiveReactions → s ∈ negativeReactions := h.resolve_left
  unfold eventMeaning
  rw [kind, sentiment, Option.bind_some, Option.bind_some, unlessVoid_reaction h]
  dsimp only [Value.text, Value.text?, reactionMeaning]
  by_cases hpositive : s ∈ positiveReactions
  · simp [hpositive]
  · simp [hpositive, hknown hpositive]

/-- A vote is on the category of the finding that an event answers, which only a table names. -/
theorem voteOf_of_category {c : String} {isPositive : Bool}
    (category : eventCategory categoryOf event = some c)
    (hmeaning : eventMeaning event = .ok (some isPositive)) :
    voteOf categoryOf event = .ok (some ⟨c, isPositive⟩) := by
  have htable : event.isTable = true := by
    cases event with
    | table entries => rfl
    | scalar s => simp [eventCategory, Value.get?, Value.field?] at category
    | list items => simp [eventCategory, Value.get?, Value.field?] at category
  rw [voteOf, if_pos htable, category, hmeaning]
  rfl

/-- The vote is read as it is cast. -/
theorem Casts.voteOf_eq {vote : Vote} (h : Casts categoryOf event vote) :
    voteOf categoryOf event = .ok (some vote) := by
  cases h with
  | rejection category kind sentiment negative =>
    have hmeaning := eventMeaning_of_reaction kind sentiment (Or.inr negative)
    rw [decide_eq_false (not_mem_positiveReactions negative)] at hmeaning
    exact voteOf_of_category category hmeaning
  | welcome category kind sentiment positive =>
    have hmeaning := eventMeaning_of_reaction kind sentiment (Or.inl positive)
    rw [decide_eq_true positive] at hmeaning
    exact voteOf_of_category category hmeaning
  | resolution category kind action =>
    have hmeaning : eventMeaning event = .ok (some true) := by
      simp [eventMeaning, kind, action, Value.text, Value.text?]
    exact voteOf_of_category category hmeaning

theorem Casts.castVote_eq {vote : Vote} (h : Casts categoryOf event vote) :
    castVote categoryOf event = some vote := by
  rw [castVote, h.voteOf_eq]
  rfl

/-! ### Verdicts -/

/-- No two kinds of votes can outweigh each other. -/
theorem isDecisive_asymm {m n : ℕ} (h : isDecisive m n = true) : isDecisive n m = false := by
  rw [isDecisive, Bool.and_eq_true, decide_eq_true_iff, decide_eq_true_iff] at h
  rw [isDecisive, Bool.and_eq_false_iff, decide_eq_false_iff_not, decide_eq_false_iff_not]
  unfold minVotes at h ⊢
  omega

/-- More votes for something and fewer against it are as decisive. -/
theorem isDecisive_mono {m m' n n' : ℕ} (h : isDecisive m n = true) (hm : m ≤ m') (hn : n' ≤ n) :
    isDecisive m' n' = true := by
  rw [isDecisive, Bool.and_eq_true, decide_eq_true_iff, decide_eq_true_iff] at h ⊢
  omega

namespace FeedbackPolicy

/-- The categories with a verdict: those that are welcome, or those that are rejected. -/
def verdict (p : FeedbackPolicy) (isPositive : Bool) : List String :=
  if isPositive then p.positive else p.negative

variable {votes votes' : List Vote} {c : String}

theorem mem_votedCategories {vote : Vote} (h : vote ∈ votes) :
    vote.category ∈ votedCategories votes := by
  rw [votedCategories, mem_eraseReps, List.mem_mergeSort]
  exact List.mem_map_of_mem h

/-- The votes of the two kinds on a category decide what becomes of it. -/
theorem mem_verdict_ofVotes {isPositive : Bool} :
    c ∈ (ofVotes votes).verdict isPositive ↔
      isDecisive (votes.count ⟨c, isPositive⟩) (votes.count ⟨c, !isPositive⟩) = true := by
  have hfilter : c ∈ (ofVotes votes).verdict isPositive ↔ c ∈ votedCategories votes ∧
      isDecisive (votes.count ⟨c, isPositive⟩) (votes.count ⟨c, !isPositive⟩) = true := by
    cases isPositive with
    | true => exact List.mem_filter
    | false => exact List.mem_filter
  rw [hfilter, and_iff_right_iff_imp]
  intro hdecisive
  -- A verdict takes votes, so the category is one of those that were voted on.
  have hpositive : 0 < votes.count ⟨c, isPositive⟩ := by
    rw [isDecisive, Bool.and_eq_true, decide_eq_true_iff] at hdecisive
    unfold minVotes at hdecisive
    omega
  exact mem_votedCategories (List.count_pos_iff.mp hpositive)

/-- Votes that stand in the order of their categories are about these, each once. -/
theorem votedCategories_of_pairwise (h : (votes.map Vote.category).Pairwise (· ≤ ·)) :
    votedCategories votes = (votes.map Vote.category).eraseReps := by
  rw [votedCategories, List.mergeSort_eq_self (· ≤ ·) h]

/-- Reordered votes are about the same categories, which are listed in one order. -/
theorem votedCategories_eq_of_perm (h : votes.Perm votes') :
    votedCategories votes = votedCategories votes' := by
  have hperm : ((votes.map Vote.category).mergeSort (· ≤ ·)).Perm
      ((votes'.map Vote.category).mergeSort (· ≤ ·)) :=
    ((List.mergeSort_perm _ _).trans (h.map _)).trans (List.mergeSort_perm _ _).symm
  rw [votedCategories, votedCategories,
    hperm.eq_of_pairwise' (List.pairwise_mergeSort' (· ≤ ·) _) (List.pairwise_mergeSort' _ _)]

theorem ofVotes_eq_of_perm (h : votes.Perm votes') : ofVotes votes = ofVotes votes' := by
  unfold ofVotes
  simp only [votedCategories_eq_of_perm h, h.count_eq]

/-- Whether one policy comes from another by moving a category in one direction: it may enter the
verdict there and leave the opposite one, and no other category moves. -/
structure Shifts (p p' : FeedbackPolicy) (isPositive : Bool) (c : String) : Prop where
  kept : c ∈ p.verdict isPositive → c ∈ p'.verdict isPositive
  notAdded : c ∈ p'.verdict (!isPositive) → c ∈ p.verdict (!isPositive)
  others : ∀ c' ≠ c, ∀ b, c' ∈ p'.verdict b ↔ c' ∈ p.verdict b

/-- One more vote shifts its category in its own direction. -/
theorem shifts_ofVotes (votes : List Vote) (isPositive : Bool) (c : String) :
    (ofVotes votes).Shifts (ofVotes (votes ++ [⟨c, isPositive⟩])) isPositive c := by
  have hcast : (votes ++ [(⟨c, isPositive⟩ : Vote)]).count ⟨c, isPositive⟩ =
      votes.count ⟨c, isPositive⟩ + 1 := by
    rw [List.count_append, List.count_singleton_self]
  have hother : ∀ vote : Vote, (⟨c, isPositive⟩ : Vote) ≠ vote →
      (votes ++ [(⟨c, isPositive⟩ : Vote)]).count vote = votes.count vote := by
    intro vote hne
    rw [List.count_append, List.count_singleton, if_neg (by simpa using hne), Nat.add_zero]
  have hopposite := hother ⟨c, !isPositive⟩ (by simp)
  constructor
  · rw [mem_verdict_ofVotes, mem_verdict_ofVotes, hcast, hopposite]
    exact fun h => isDecisive_mono h (Nat.le_succ _) le_rfl
  · rw [mem_verdict_ofVotes, mem_verdict_ofVotes, Bool.not_not, hcast, hopposite]
    exact fun h => isDecisive_mono h le_rfl (Nat.le_succ _)
  · intro c' hne b
    have hforeign : ∀ b, (⟨c, isPositive⟩ : Vote) ≠ ⟨c', b⟩ := by
      intro b heq
      exact hne (congrArg Vote.category heq).symm
    rw [mem_verdict_ofVotes, mem_verdict_ofVotes, hother _ (hforeign b), hother _ (hforeign (!b))]

/-- No category has both verdicts. -/
theorem not_mem_both (votes : List Vote) (c : String) :
    ¬ (c ∈ (ofVotes votes).positive ∧ c ∈ (ofVotes votes).negative) := by
  rintro ⟨hpositive, hnegative⟩
  have hwelcome : c ∈ (ofVotes votes).verdict true := hpositive
  have hrejected : c ∈ (ofVotes votes).verdict false := hnegative
  rw [mem_verdict_ofVotes] at hwelcome hrejected
  exact Bool.false_ne_true ((isDecisive_asymm hwelcome).symm.trans hrejected)

end FeedbackPolicy

open FeedbackPolicy

theorem ofEvents_eq_ok
    (h : ∀ event ∈ events, voteOf categoryOf event = .ok (castVote categoryOf event)) :
    ofEvents categoryOf events = .ok (ofVotes (events.filterMap (castVote categoryOf))) := by
  rw [ofEvents, votesOf_eq_ok h]
  rfl

/-- Events whose sentiments are texts decide a policy. It is the same in every order of the events,
no category is both welcome and rejected, and one more event that casts a vote shifts the category
of the vote in its direction and no other category. -/
theorem ofEvents_isFair (categoryOf : String → Option String) {events : List Value}
    (h : ∀ event ∈ events, IsEvent event) :
    ∃ p, ofEvents categoryOf events = .ok p ∧
      (∀ events', events.Perm events' → ofEvents categoryOf events' = .ok p) ∧
      (∀ c, ¬ (c ∈ p.positive ∧ c ∈ p.negative)) ∧
      ∀ event isPositive c, Casts categoryOf event ⟨c, isPositive⟩ →
        ∃ p', ofEvents categoryOf (events ++ [event]) = .ok p' ∧ p.Shifts p' isPositive c := by
  have hread : ∀ event ∈ events, voteOf categoryOf event = .ok (castVote categoryOf event) :=
    fun event hevent => (h event hevent).voteOf_eq
  refine ⟨_, ofEvents_eq_ok hread, ?_, not_mem_both _, ?_⟩
  · intro events' hperm
    rw [ofEvents_eq_ok fun event hevent => hread event (hperm.mem_iff.mpr hevent)]
    rw [ofVotes_eq_of_perm (hperm.filterMap _)]
  · intro event isPositive c hcasts
    have hreadAll : ∀ e ∈ events ++ [event], voteOf categoryOf e = .ok (castVote categoryOf e) := by
      intro e he
      rcases List.mem_append.mp he with he | he
      · exact hread e he
      · obtain rfl := List.mem_singleton.mp he
        rw [hcasts.castVote_eq, hcasts.voteOf_eq]
    refine ⟨_, ofEvents_eq_ok hreadAll, ?_⟩
    have hvotes : (events ++ [event]).filterMap (castVote categoryOf) =
        events.filterMap (castVote categoryOf) ++ [⟨c, isPositive⟩] := by
      rw [List.filterMap_append, List.filterMap_cons, hcasts.castVote_eq]
      rfl
    rw [hvotes]
    exact shifts_ofVotes _ isPositive c

/-- A reaction to the finding of a comment. -/
def reaction (comment : ℤ) (sentiment : String) : Value :=
  .record [("comment_id", .int comment), ("type", .text "reaction"),
    ("sentiment", .text sentiment)]

/-- A reply that resolves the finding of a comment. -/
def resolvedReply (comment : ℤ) : Value :=
  .record [("comment_id", .int comment), ("type", .text "reply"), ("action", .text "resolved")]

/-- The categories of comments: the third one is on style, the fourth one is not known. -/
def threeCategories (comment : String) : Option String :=
  if comment = "3" then some "style" else if comment = "4" then none else some "bug"

/-- Four votes on bugs, three of them against, one on no category, and two votes for style. -/
def sevenReactions : List Value :=
  [reaction 1 "thumbs_down", reaction 2 "confused", reaction 1 "-1", reaction 2 "+1",
    reaction 4 "heart", reaction 3 "heart", resolvedReply 3]

/-- The votes that they are. -/
def sevenVotes : List Vote :=
  [⟨"bug", false⟩, ⟨"bug", false⟩, ⟨"bug", false⟩, ⟨"bug", true⟩, ⟨"style", true⟩, ⟨"style", true⟩]

theorem isEvent_reaction (comment : ℤ) (sentiment : String) :
    IsEvent (reaction comment sentiment) where
  table := rfl
  sentiment := by
    intro v hv
    exact ⟨sentiment, (Option.some.inj hv).symm⟩

theorem isEvent_resolvedReply (comment : ℤ) : IsEvent (resolvedReply comment) where
  table := rfl
  sentiment := by
    intro v hv
    have hnone : (resolvedReply comment).get? "sentiment" = none := rfl
    exact absurd (hv.symm.trans hnone) (by simp)

/-- Bugs are rejected, and style is welcome as soon as one more of its comments is resolved. -/
theorem ofEvents_isFair_sevenReactions :
    (∀ event ∈ sevenReactions, IsEvent event) ∧
    Casts threeCategories (resolvedReply 3) ⟨"style", true⟩ ∧
    ∃ p p', ofEvents threeCategories sevenReactions = .ok p ∧
      ofEvents threeCategories sevenReactions.reverse = .ok p ∧
      ofEvents threeCategories (sevenReactions ++ [resolvedReply 3]) = .ok p' ∧
      p.Shifts p' true "style" ∧ p = ⟨[], ["bug"]⟩ ∧ p' = ⟨["style"], ["bug"]⟩ := by
  have hevents : ∀ event ∈ sevenReactions, IsEvent event := by
    simp [sevenReactions, isEvent_reaction, isEvent_resolvedReply]
  have hcasts : Casts threeCategories (resolvedReply 3) ⟨"style", true⟩ :=
    .resolution (by decide +kernel) rfl rfl
  have hvotes : votesOf threeCategories sevenReactions = .ok sevenVotes := by decide +kernel
  have hvotes' : votesOf threeCategories (sevenReactions ++ [resolvedReply 3]) =
      .ok (sevenVotes ++ [⟨"style", true⟩]) := by
    decide +kernel
  have hpolicy : ofEvents threeCategories sevenReactions = .ok ⟨[], ["bug"]⟩ := by
    rw [ofEvents, hvotes, Except.map, ofVotes, votedCategories_of_pairwise (by decide +kernel)]
    decide +kernel
  have hpolicy' : ofEvents threeCategories (sevenReactions ++ [resolvedReply 3]) =
      .ok ⟨["style"], ["bug"]⟩ := by
    rw [ofEvents, hvotes', Except.map, ofVotes, votedCategories_of_pairwise (by decide +kernel)]
    decide +kernel
  obtain ⟨p, hp, hperm, -, hshifts⟩ := ofEvents_isFair threeCategories hevents
  obtain ⟨p', hp', hshift⟩ := hshifts _ _ _ hcasts
  refine ⟨hevents, hcasts, p, p', hp, hperm _ (List.reverse_perm _).symm, hp', hshift, ?_, ?_⟩
  · exact Except.ok.inj (hp.symm.trans hpolicy)
  · exact Except.ok.inj (hp'.symm.trans hpolicy')

end Triage
