/-!
# Vocabularies

The closed vocabularies of the library: sides of a diff, severities, categories, confidences, risks
and the two kinds of comment.
-/

namespace Triage

/-- A type whose values are spelled by fixed words. -/
class Vocabulary (α : Type) where
  /-- all values, in the order in which messages list them -/
  all : List α
  /-- the word for a value -/
  word : α → String

namespace Vocabulary

variable {α : Type} [Vocabulary α]

/-- The value that a word spells. -/
def ofWord? (s : String) : Option α :=
  (all : List α).find? fun a => word a = s

/-- All words, in the order of the values. -/
def allWords (α : Type) [Vocabulary α] : List String :=
  (all : List α).map word

end Vocabulary

/-- The side of a diff that a line number counts on: after the change, or before it. -/
inductive Side
  | right
  | left
  deriving DecidableEq, Repr, Inhabited

instance : Vocabulary Side where
  all := [.right, .left]
  word
    | .right => "RIGHT"
    | .left => "LEFT"

/-- How much an issue matters. -/
inductive Severity
  | blocking
  | important
  | nit
  deriving DecidableEq, Repr, Inhabited

instance : Vocabulary Severity where
  all := [.blocking, .important, .nit]
  word
    | .blocking => "blocking"
    | .important => "important"
    | .nit => "nit"

/-- What kind of issue it is. -/
inductive Category
  | bug
  | security
  | performance
  | maintainability
  | testing
  | style
  deriving DecidableEq, Repr, Inhabited

instance : Vocabulary Category where
  all := [.bug, .security, .performance, .maintainability, .testing, .style]
  word
    | .bug => "bug"
    | .security => "security"
    | .performance => "performance"
    | .maintainability => "maintainability"
    | .testing => "testing"
    | .style => "style"

/-- How sure the reviewer is. -/
inductive Confidence
  | high
  | medium
  | low
  deriving DecidableEq, Repr, Inhabited

instance : Vocabulary Confidence where
  all := [.high, .medium, .low]
  word
    | .high => "high"
    | .medium => "medium"
    | .low => "low"

/-- How risky a change is. -/
inductive Risk
  | low
  | medium
  | high
  deriving DecidableEq, Repr, Inhabited

instance : Vocabulary Risk where
  all := [.low, .medium, .high]
  word
    | .low => "low"
    | .medium => "medium"
    | .high => "high"

/-- The place of a risk among the risks, the lowest being one. -/
def Risk.rank : Risk → Nat
  | .low => 1
  | .medium => 2
  | .high => 3

/-- The place of the risk that a word spells; any other word ranks lowest. -/
def Risk.rankOfWord (s : String) : Nat :=
  ((Vocabulary.ofWord? s).map Risk.rank).getD Risk.low.rank

/-- Where a comment goes: to its line, or into the summary. -/
inductive CommentType
  | inline
  | summary
  deriving DecidableEq, Repr, Inhabited

instance : Vocabulary CommentType where
  all := [.inline, .summary]
  word
    | .inline => "inline"
    | .summary => "summary"

end Triage
