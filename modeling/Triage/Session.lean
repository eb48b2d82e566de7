import Triage.Failure
import Triage.Report
import Triage.Summary.Merge

/-!
# Sessions

A review over several runs: the diff under review, the findings of the present run, the feedback and
summary so far, and the store of findings of earlier runs. A step that fails changes nothing.
-/

namespace Triage

/-- The state of a review. -/
structure Session where
  index : DiffIndex
  findings : List Finding
  policy : FeedbackPolicy
  summary : Option RunSummary
  prior : List PriorFinding
  claimed : List StoreId
  nextId : Int

/-- A step of a review. -/
inductive Step
  | diff (patch : String)
  | refine (drafts : List Draft) (files : List ChangedFile) (o : RefineOptions)
  /-- refines the present findings once more -/
  | again (files : List ChangedFile) (o : RefineOptions)
  | supplement (drafts : List Draft)
  | plan (files : List ChangedFile) (maxTargets : Int)
  | feedback (events : List Value)
  | summary (s : RunSummary)
  | reconcile (persists : Bool)
  | select (f : Finding)

/-- What a step answers. -/
inductive Answer
  | paths (paths : List String)
  | refined (r : Refined)
  | supplemented (s : Supplemented)
  | plan (p : CoveragePlan)
  | policy (p : FeedbackPolicy)
  | summary (s : RunSummary)
  | reconciliation (r : Reconciliation)
  | selected (id : Option StoreId)

namespace Session

/-- The state before the first step. -/
def initial : Session :=
  ⟨.empty, [], .neutral, none, [], [], 1⟩

/-- The categories of the present findings by id. -/
def categories (s : Session) : OrderedMap String String :=
  .ofList (s.findings.map fun f => (f.id, Vocabulary.word f.category))

/-- Refines drafts under the present diff and feedback. -/
def refineWith (s : Session) (drafts : List Draft) (files : List ChangedFile)
    (o : RefineOptions) : Except LimitError (Session × Answer) :=
  (refine drafts s.index files { o with policy := s.policy }).map fun refined =>
    ({ s with findings := refined.findings }, .refined refined)

/-- Adds drafts to the present findings. -/
def supplementWith (s : Session) (drafts : List Draft) : Except LimitError (Session × Answer) :=
  (supplement s.findings drafts).map fun result =>
    ({ s with findings := result.findings }, .supplemented result)

/-- The state with the result of a reconciliation in its store. -/
def persist (s : Session) (result : Reconciliation) : Session :=
  let (prior, nextId) := store s.nextId result.matched
  { s with prior, nextId, claimed := [] }

/-- Reconciles the present findings with the store, which may take up the result. -/
def reconcileWith (s : Session) (persists : Bool) : Except LimitError (Session × Answer) :=
  (reconcile s.findings s.prior s.index).map fun result =>
    (if persists then s.persist result else s, .reconciliation result)

/-- Plans a second pass over changed files. -/
def planWith (s : Session) (files : List ChangedFile) (maxTargets : Int) :
    Except LimitError (Session × Answer) :=
  (coveragePlan files s.findings maxTargets).map fun plan => (s, .plan plan)

/-- Takes a step. -/
def step (s : Session) : Step → Except Failure (Session × Answer)
  | .diff patch =>
    match DiffIndex.ofPatch patch with
    | .ok index => .ok ({ s with index }, .paths index.files.keys)
    | .error e => .error (.patch e)
  | .refine drafts files o => (s.refineWith drafts files o).mapError .limit
  | .again files o => (s.refineWith (s.findings.map .finding) files o).mapError .limit
  | .supplement drafts => (s.supplementWith drafts).mapError .limit
  | .plan files maxTargets => (s.planWith files maxTargets).mapError .limit
  | .feedback events =>
    match FeedbackPolicy.ofEvents s.categories.get? events with
    | .ok policy => .ok ({ s with policy }, .policy policy)
    | .error e => .error (.event e)
  | .summary new =>
    let merged := (s.summary.map (·.merge new defaultMaxKeyConcerns)).getD new
    .ok ({ s with summary := some merged }, .summary merged)
  | .reconcile persists => (s.reconcileWith persists).mapError .limit
  | .select f =>
    let id := (semanticMatch f s.prior s.claimed).map PriorFinding.id
    .ok ({ s with claimed := id.toList ++ s.claimed }, .selected id)

end Session

end Triage
