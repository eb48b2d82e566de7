import Triage.Feedback.Policy

/-!
# Votes

Reactions and replies as votes on the category of the finding that they answer. A category is
welcome or rejected if it has enough votes of one kind and half as many again as of the other.
-/

namespace Triage

/-- A vote on a category. -/
structure Vote where
  category : String
  isPositive : Bool
  deriving DecidableEq, Repr

/-- Why an event has no meaning. -/
inductive EventError
  /-- the event is not a table -/
  | notTable
  /-- the sentiment is a list or a table, which cannot be looked up -/
  | badSentiment
  deriving DecidableEq, Repr

/-- The reactions that welcome a finding. -/
def positiveReactions : List String := ["thumbs_up", "+1", "heart", "laugh", "hooray"]

/-- The reactions that reject a finding. -/
def negativeReactions : List String := ["thumbs_down", "-1", "confused"]

/-- The votes that a verdict needs. -/
def minVotes : Nat := 3

/-- The meaning of a reaction: welcome, rejection, or neither. -/
def reactionMeaning (sentiment : Value) : Except EventError (Option Bool) :=
  match sentiment with
  | .scalar (.text s) =>
    if s ∈ positiveReactions then .ok (some true)
    else if s ∈ negativeReactions then .ok (some false)
    else .ok none
  | .scalar _ => .ok none
  | _ => .error .badSentiment

/-- What an event says about the finding that it answers: a reaction by its sentiment, a reply
only if it resolves the issue. -/
def eventMeaning (event : Value) : Except EventError (Option Bool) :=
  match (event.get? "type").bind Value.text? with
  | some "reaction" =>
    match (event.get? "sentiment").bind Value.unlessVoid with
    | some sentiment => reactionMeaning sentiment
    | none => .ok none
  | some "reply" =>
    .ok (if (event.get? "action").bind Value.text? = some "resolved" then some true else none)
  | _ => .ok none

/-- The category of the finding that an event answers, if the event names one with a category. -/
def eventCategory (categoryOf : String → Option String) (event : Value) : Option String :=
  let comment := (event.get? "comment_id").bind Value.unlessVoid
  (comment.bind fun id => categoryOf id.display).filter (· ≠ "")

/-- The vote that an event is. -/
def voteOf (categoryOf : String → Option String) (event : Value) :
    Except EventError (Option Vote) :=
  if event.isTable then
    match eventCategory categoryOf event with
    | none => .ok none
    | some category => (eventMeaning event).map fun m => m.map (⟨category, ·⟩)
  else .error .notTable

/-- The votes of events, up to the first one without meaning. -/
def votesOf (categoryOf : String → Option String) :
    List Value → Except EventError (List Vote)
  | [] => .ok []
  | event :: rest => do
    let vote ← voteOf categoryOf event
    let votes ← votesOf categoryOf rest
    return vote.toList ++ votes

/-- Whether votes for something outweigh those against it: enough of them, and at least three for
every two. -/
def isDecisive (votesFor votesAgainst : Nat) : Bool :=
  minVotes ≤ votesFor && 3 * votesAgainst ≤ 2 * votesFor

namespace FeedbackPolicy

/-- The categories that votes are about, in order and each once. -/
def votedCategories (votes : List Vote) : List String :=
  ((votes.map Vote.category).mergeSort (· ≤ ·)).eraseReps

/-- The policy that votes decide. It lists categories in order, so the order of the votes does not
matter. -/
def ofVotes (votes : List Vote) : FeedbackPolicy :=
  let categories := votedCategories votes
  let welcome (c : String) := votes.count ⟨c, true⟩
  let rejected (c : String) := votes.count ⟨c, false⟩
  ⟨categories.filter fun c => isDecisive (welcome c) (rejected c),
    categories.filter fun c => isDecisive (rejected c) (welcome c)⟩

/-- The policy that events decide. -/
def ofEvents (categoryOf : String → Option String) (events : List Value) :
    Except EventError FeedbackPolicy :=
  (votesOf categoryOf events).map ofVotes

end FeedbackPolicy

end Triage
