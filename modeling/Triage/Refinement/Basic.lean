import Triage.Refinement.Screening
import Triage.Sorting

/-!
# Refinement

From the drafts of a review to the comments that are shown: drafts are screened, of findings that
say the same the strongest stays, each file gets only so many inline comments, and what is left is
put in order. Every draft ends in one place: among the comments, or in one of the counts of what
was dropped. `refine` screens all drafts, which may meet a limit; `Refined.ofOutcomes` is the rest,
which cannot fail.
-/

namespace Triage

/-- What became of the drafts that are not shown, and of those that were changed. -/
structure Diagnostics where
  droppedIgnored : Nat
  droppedEmpty : Nat
  deduplicated : Nat
  convertedToSummary : Nat
  downgradedBlocking : Nat
  droppedPerFileCap : Nat
  deriving DecidableEq, Repr

/-- The comments to show, with an account of the others. -/
structure Refined where
  findings : List Finding
  diagnostics : Diagnostics
  deriving DecidableEq, Repr

/-- Items that were kept, and how many others were dropped. -/
structure Selection where
  kept : List Ranked
  dropped : Nat
  deriving DecidableEq, Repr

namespace Selection

/-- The selection from no items. -/
def empty : Selection := ⟨[], 0⟩

/-- Keeps one more item, in front of the others. -/
def keep (item : Ranked) (s : Selection) : Selection :=
  { s with kept := item :: s.kept }

/-- Drops one more item. -/
def drop (s : Selection) : Selection :=
  { s with dropped := s.dropped + 1 }

end Selection

/-! ### Findings that say the same -/

/-- What two findings share if they say the same. -/
structure DedupeKey where
  path : String
  side : Side
  line : Nat
  category : Category
  title : String
  commentType : CommentType
  deriving DecidableEq, Repr

/-- What a finding says. -/
def Finding.dedupeKey (f : Finding) : DedupeKey where
  path := Path.relative f.path
  side := f.side
  line := f.line
  category := f.category
  title := onChars Text.titleKey f.title
  commentType := f.commentType

/-- The strongest items so far by what they say, and how many others there were. -/
structure Strongest where
  items : OrderedMap DedupeKey Ranked
  dropped : Nat
  deriving Repr

namespace Strongest

/-- The strongest of no items. -/
def empty : Strongest := ⟨.empty, 0⟩

/-- Takes an item in: a new one, or one that is stronger than the one that says the same. -/
def receive (s : Strongest) (item : Ranked) : Strongest :=
  let key := item.finding.dedupeKey
  match s.items.get? key with
  | none => { s with items := s.items.insert key item }
  | some known =>
    { items := if item.score ≤ known.score then s.items else s.items.insert key item
      dropped := s.dropped + 1 }

end Strongest

/-- The strongest item of each group that says the same, in the order in which the groups begin. -/
def keepStrongest (items : List Ranked) : Selection :=
  let strongest := items.foldl Strongest.receive .empty
  ⟨strongest.items.values, strongest.dropped⟩

/-! ### Inline comments for each file -/

/-- The inline comments that one file may have: a third of all of them, but two to six. -/
def maxInlinePerFile (maxInlineComments : Int) : Nat :=
  (max 2 (min 6 ((maxInlineComments + 2) / 3))).toNat

/-- Whether a third of all inline comments is a finite double, in which it is taken. -/
def hasInlineShare (maxInlineComments : Int) : Bool :=
  match Double.ofRatio maxInlineComments.natAbs 3 with
  | .finite _ _ => true
  | _ => false

/-- Keeps the first inline comments of each file, and all others; nothing counts as inline if every
comment goes into the summary. `counts` are the inline comments of each file that were kept
before. -/
def capFrom (limit : Nat) (forcesSummary : Bool) (counts : Tally) : List Ranked → Selection
  | [] => .empty
  | item :: rest =>
    let path := item.finding.path
    if forcesSummary || item.finding.isSummary then
      (capFrom limit forcesSummary counts rest).keep item
    else if limit ≤ counts.count path then (capFrom limit forcesSummary counts rest).drop
    else (capFrom limit forcesSummary (counts.meet path) rest).keep item

/-- Keeps the first inline comments of each file, and all others. -/
def capInline (limit : Nat) (forcesSummary : Bool) (items : List Ranked) : Selection :=
  capFrom limit forcesSummary .empty items

/-! ### Order -/

/-- Whether every item has a place by its score. -/
def allRanked (items : List Ranked) : Bool :=
  items.all fun item => item.score.rank?.isSome

/-- Sorts items by what is shown first: stably, or by insertion if a score is no number, which is
neither before nor behind any other. -/
def sortRanked (isBefore : Ranked → Ranked → Bool) (items : List Ranked) : List Ranked :=
  if allRanked items then items.mergeSort fun a b => !isBefore b a
  else sortByInsertion isBefore items

/-- Whether an item has a higher score than another one. -/
def Ranked.isStronger (a b : Ranked) : Bool :=
  b.score < a.score

/-- Whether two items have one score. -/
def Ranked.isEven (a b : Ranked) : Bool :=
  a.score.rank?.isSome && a.score.rank? = b.score.rank?

/-- Whether an item is shown before another one: by score, then by path, then by line. -/
def Ranked.isShownBefore (a b : Ranked) : Bool :=
  if !a.isEven b then a.isStronger b
  else if a.finding.path = b.finding.path then a.finding.line < b.finding.line
  else a.finding.path < b.finding.path

/-- Items by score, the highest first. -/
def byScore (items : List Ranked) : List Ranked :=
  sortRanked Ranked.isStronger items

/-- Items in the order in which they are shown. -/
def inOrder (items : List Ranked) : List Ranked :=
  sortRanked Ranked.isShownBefore items

/-! ### The whole -/

/-- The strongest items of screened drafts. -/
def strongestOf (outcomes : List Outcome) : Selection :=
  keepStrongest (outcomes.filterMap Outcome.item?)

/-- Those of the strongest items that the files may have. -/
def cappedOf (o : RefineOptions) (outcomes : List Outcome) : Selection :=
  capInline (maxInlinePerFile o.maxInlineComments) o.forcesSummary
    (byScore (strongestOf outcomes).kept)

/-- The items of screened drafts that are shown, in order. -/
def shownItems (o : RefineOptions) (outcomes : List Outcome) : List Ranked :=
  inOrder (cappedOf o outcomes).kept

/-- The comments of screened drafts. -/
def Refined.ofOutcomes (o : RefineOptions) (outcomes : List Outcome) : Refined where
  findings := suffixRepeats ((shownItems o outcomes).map Ranked.finding)
  diagnostics := {
    droppedIgnored := outcomes.countP Outcome.isIgnored
    droppedEmpty := outcomes.countP Outcome.isEmpty
    deduplicated := (strongestOf outcomes).dropped
    convertedToSummary := outcomes.countP Outcome.isConverted
    downgradedBlocking := outcomes.countP Outcome.isDowngraded
    droppedPerFileCap := (cappedOf o outcomes).dropped }

/-- Refines drafts. -/
def refine (drafts : List Draft) (index : DiffIndex) (changedFiles : List ChangedFile)
    (o : RefineOptions) : Except LimitError Refined := do
  let outcomes ← drafts.mapM (screen index (changedPaths changedFiles) o)
  if hasInlineShare o.maxInlineComments then return .ofOutcomes o outcomes
  else throw .beyondDoubles

end Triage
