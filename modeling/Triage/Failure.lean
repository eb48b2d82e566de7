import Triage.ChangedFile.Basic
import Triage.Diff.Patch
import Triage.Feedback.Vote
import Triage.Limit
import Triage.Settings.Reading
import Triage.Summary.Basic

/-!
# Failures

Why a request of any kind could not be answered.
-/

namespace Triage

/-- The cause of a failure. -/
inductive Failure
  | finding (e : FindingError)
  | changedFile (e : ChangedFileError)
  | policy (e : PolicyError)
  | event (e : EventError)
  | summary (e : SummaryError)
  | settings (e : SettingsError)
  | patch (e : Diff.PatchError)
  | limit (e : LimitError)
  deriving DecidableEq, Repr

end Triage
