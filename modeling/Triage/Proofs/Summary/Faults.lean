import Mathlib.Data.Int.Notation
import Triage.Proofs.Traversal
import Triage.Proofs.Guards
import Triage.Summary.Basic

/-!
# Summaries that are beyond a reader

Most of what is wrong with a summary is reported. What is not (`exists_unreported_iff`) are a number
or a truth value in the place of several values, and an integer beyond all doubles as a confidence.
-/

namespace Triage

/-! ### Fields -/

/-- Whether a field says something but cannot be walked through: a number, or a truth value. -/
def IsSolid (v : Option Value) : Prop :=
  ∃ s : Scalar, v = some (.scalar s) ∧ s.isVoid = false ∧ ∀ t, s ≠ .text t

theorem isSolid_scalar_iff {s : Scalar} :
    IsSolid (some (.scalar s)) ↔ s.isVoid = false ∧ ∀ t, s ≠ .text t := by
  simp [IsSolid]

theorem fieldElements_eq_error_iff {v : Option Value} {e : SummaryError} :
    fieldElements v = .error e ↔ IsSolid v ∧ e = .notWalkable := by
  cases v with
  | none => simp [fieldElements, IsSolid]
  | some w => cases w with
    | list items => cases items <;> simp [fieldElements, Value.unlessVoid, Value.isVoid,
        Value.elements?, IsSolid]
    | table entries => cases entries <;> simp [fieldElements, Value.unlessVoid, Value.isVoid,
        Value.elements?, IsSolid]
    | scalar s =>
      rw [isSolid_scalar_iff]
      -- What is void says nothing, and of the others only a text can be walked through.
      cases hvoid : s.isVoid with
      | true => simp [fieldElements, Value.unlessVoid, Value.isVoid, hvoid]
      | false => cases s <;> simp [fieldElements, Value.unlessVoid, Value.isVoid, hvoid,
          Value.elements?, @eq_comm _ SummaryError.notWalkable]

theorem IsSolid.fieldElements_ne_ok {v : Option Value} (h : IsSolid v) (items : List Value) :
    fieldElements v ≠ .ok items := by
  rw [fieldElements_eq_error_iff.mpr ⟨h, rfl⟩]
  simp

theorem isSolid_or_exists_elements (v : Option Value) :
    IsSolid v ∨ ∃ items, fieldElements v = .ok items := by
  cases h : fieldElements v with
  | error e => exact Or.inl (fieldElements_eq_error_iff.mp h).1
  | ok items => exact Or.inr ⟨items, rfl⟩

/-- Whether a field is an integer beyond all doubles. -/
def IsBeyondDoubles (v : Option Value) : Prop :=
  ∃ n : ℤ, v = some (.int n) ∧ Double.ofInt? n = none

theorem readConfidence_eq_error_iff {v : Option Value} {e : SummaryError} :
    readConfidence v = .error e ↔ IsBeyondDoubles v ∧ e = .limit .beyondDoubles := by
  unfold IsBeyondDoubles
  cases v with
  | none => simp [readConfidence]
  | some w => cases w with
    | list items => simp [readConfidence, Value.number?, Value.int]
    | table entries => simp [readConfidence, Value.number?, Value.int]
    | scalar s => cases s with
      | int n => cases hn : Double.ofInt? n <;>
          simp [readConfidence, Value.number?, Value.int, Number.toDouble?, hn, eq_comm]
      | real x => simp [readConfidence, Value.number?, Value.int, Number.toDouble?]
      | _ => simp [readConfidence, Value.number?, Value.int]

/-! ### Whole summaries -/

/-- Whether an error is one that no reader of a summary reports. -/
def SummaryError.IsUnreported (e : SummaryError) : Prop :=
  e = .notWalkable ∨ ∃ l, e = .limit l

/-- Whether a value reads as the notes of a summary. -/
def HasNotes (v : Option Value) : Prop :=
  ∃ items notes, fieldElements v = .ok items ∧ items.mapM FileNote.ofValue = .ok notes

/-- Whether a part of a summary is beyond its reader: the notes, or another one behind them. -/
inductive StopsReader (v : Value) : Prop
  | notes (solid : IsSolid (v.get? "file_breakdown"))
  | behind (read : HasNotes (v.get? "file_breakdown"))
    (part : IsSolid (v.get? "key_concerns") ∨ IsSolid (v.get? "what_to_test") ∨
      IsBeyondDoubles (v.get? "confidence"))

theorem failsWith_fieldElements_iff {v : Option Value} :
    FailsWith SummaryError.IsUnreported (fieldElements v) ↔ IsSolid v := by
  simp only [FailsWith, fieldElements_eq_error_iff]
  constructor
  · rintro ⟨e, ⟨hsolid, -⟩, -⟩
    exact hsolid
  · exact fun hsolid => ⟨_, ⟨hsolid, rfl⟩, Or.inl rfl⟩

theorem failsWith_readConfidence_iff {v : Option Value} :
    FailsWith SummaryError.IsUnreported (readConfidence v) ↔ IsBeyondDoubles v := by
  simp only [FailsWith, readConfidence_eq_error_iff]
  constructor
  · rintro ⟨e, ⟨hbeyond, -⟩, -⟩
    exact hbeyond
  · exact fun hbeyond => ⟨_, ⟨hbeyond, rfl⟩, Or.inr ⟨_, rfl⟩⟩

/-- What is wrong with notes is reported. -/
theorem not_failsWith_mapM_ofValue (items : List Value) :
    ¬ FailsWith SummaryError.IsUnreported (items.mapM FileNote.ofValue) := by
  rintro ⟨e, he, hunreported⟩
  have hbad : e = .badFileNote := by
    clear hunreported
    induction items with
    | nil => exact absurd he (by simp [pure, Except.pure])
    | cons v items ih =>
      rw [List.mapM_cons, bind_eq_error_iff] at he
      rcases he with he | ⟨n, -, he⟩
      · unfold FileNote.ofValue at he
        split at he
        · exact (Except.error.inj he).symm
        · exact absurd he (by simp)
      · rcases bind_eq_error_iff.mp he with he | ⟨_, -, he⟩
        · exact ih he
        · exact absurd he pure_ne_error
  subst hbad
  rcases hunreported with h | ⟨l, h⟩
  · exact absurd h (by simp)
  · exact absurd h (by simp)

namespace RunSummary

/-- A summary is beyond its reader iff it is a table with a risk, and a part of it is. -/
theorem failsWith_ofValue_iff {v : Value} :
    FailsWith SummaryError.IsUnreported (ofValue v) ↔
      v.isTable = true ∧ optionalWord Risk (v.get? "risk") ≠ none ∧ StopsReader v := by
  unfold ofValue
  cases htable : v.isTable with
  | false => simp [SummaryError.IsUnreported, throw_bind]
  | true =>
    rw [if_pos rfl]
    cases hrisk : optionalWord Risk (v.get? "risk") with
    | none => simp [SummaryError.IsUnreported]
    | some risk =>
      simp only [failsWith_bind_iff, failsWith_fieldElements_iff, not_failsWith_mapM_ofValue,
        failsWith_readConfidence_iff, not_failsWith_pure]
      constructor
      · rintro (hsolid | ⟨items, hitems, hnever | ⟨notes, hnotes, hrest⟩⟩)
        · exact ⟨trivial, by simp, .notes hsolid⟩
        · exact hnever.elim
        · refine ⟨trivial, by simp, .behind ⟨items, notes, hitems, hnotes⟩ ?_⟩
          rcases hrest with hconcerns | ⟨-, -, htests | ⟨-, -, hbeyond | ⟨-, -, hnever⟩⟩⟩
          · exact Or.inl hconcerns
          · exact Or.inr (Or.inl htests)
          · exact Or.inr (Or.inr hbeyond)
          · exact hnever.elim
      · rintro ⟨-, -, hsolid | ⟨⟨items, notes, hitems, hnotes⟩, hpart⟩⟩
        · exact Or.inl hsolid
        · refine Or.inr ⟨items, hitems, Or.inr ⟨notes, hnotes, ?_⟩⟩
          -- Behind the notes it does not matter which part is met first.
          rcases isSolid_or_exists_elements (v.get? "key_concerns") with hconcerns | ⟨_, hconcerns⟩
          · exact Or.inl hconcerns
          refine Or.inr ⟨_, hconcerns, ?_⟩
          rcases isSolid_or_exists_elements (v.get? "what_to_test") with htests | ⟨_, htests⟩
          · exact Or.inl htests
          refine Or.inr ⟨_, htests, Or.inl ?_⟩
          rcases hpart with hsolid | hsolid | hbeyond
          · exact absurd hconcerns (hsolid.fieldElements_ne_ok _)
          · exact absurd htests (hsolid.fieldElements_ne_ok _)
          · exact hbeyond

end RunSummary

end Triage
