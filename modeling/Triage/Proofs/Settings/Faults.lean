import Mathlib.Data.Nat.Notation
import Triage.Proofs.Guards
import Triage.Settings.Reading

/-!
# Faults of settings

A document that is no settings has a fault of a document (`SettingsError.IsOfDocument`), unless a
table of weights has a key that is beyond a limit (`not_failsWith_ofValue`). It never has a fault of
a file (`not_failsWith_isOfFile_ofValue`).
-/

namespace Triage

/-- Whether an error is one of a file with settings: it is no text, or no markup that means
anything. -/
def SettingsError.IsOfFile (e : SettingsError) : Prop :=
  e = .undecodable ∨ ∃ f, e = .badScalar f

/-- Whether an error is one that its document answers for: it is none of a file, and no limit is
met. -/
def SettingsError.IsOfDocument : SettingsError → Prop
  | .undecodable | .badScalar _ | .limit _ => False
  | _ => True

theorem SettingsError.IsOfDocument.not_isOfFile {e : SettingsError} (h : e.IsOfDocument) :
    ¬ e.IsOfFile := by
  rintro (rfl | ⟨f, rfl⟩)
  · exact h
  · exact h

theorem not_isOfFile_unknownKeyError (place : String) (key : Scalar) :
    ¬ (unknownKeyError place key).IsOfFile := by
  unfold unknownKeyError
  split
  · split_ifs <;> simp [SettingsError.IsOfFile]
  · simp [SettingsError.IsOfFile]

/-- What a document says of a setting in a section. -/
def Value.setting? (v : Value) (sectionName name : String) : Option Value :=
  (v.get? sectionName).bind (·.get? name)

/-- A section is read as it is, if it is a table or missing. -/
theorem section?_eq_ok_iff {place : String} {v r : Option Value} : section? place v = .ok r ↔
    r = v ∧ ∀ w ∈ v, w.isTable = true := by
  cases v with
  | none =>
    rw [section?, Except.ok.injEq]
    constructor
    · rintro rfl
      simp
    · rintro ⟨rfl, -⟩
      rfl
  | some w =>
    rw [section?]
    split_ifs with h
    · rw [Except.ok.injEq]
      constructor
      · rintro rfl
        exact ⟨rfl, by simpa using h⟩
      · rintro ⟨rfl, -⟩
        rfl
    · simp [h]

variable {P : SettingsError → Prop} (hP : ∀ e, e.IsOfDocument → ¬ P e)

section Parts

include hP in
theorem not_failsWith_error {α : Type} {e : SettingsError} (h : e.IsOfDocument) :
    ¬ FailsWith P (.error e : Reading α) := by
  simpa using hP e h

variable (place : String) (v : Option Value)

include hP in
theorem not_failsWith_section? : ¬ FailsWith P (section? place v) := by
  unfold section?
  split
  · simp
  · split_ifs
    · simp
    · exact not_failsWith_error hP trivial

include hP in
theorem not_failsWith_positive (w : Value) : ¬ FailsWith P (positive place w) := by
  unfold positive
  split
  · exact not_failsWith_error hP trivial
  · split_ifs
    · exact not_failsWith_error hP trivial
    · simp

include hP in
theorem not_failsWith_positiveInt (w : Value) : ¬ FailsWith P (positiveInt place w) := by
  rw [positiveInt, failsWith_map_iff]
  exact not_failsWith_positive hP place w

include hP in
theorem not_failsWith_weight (w : Value) : ¬ FailsWith P (weight place w) := by
  unfold weight
  split
  · exact not_failsWith_error hP trivial
  · split_ifs
    · exact not_failsWith_error hP trivial
    · simp

theorem not_failsWith_field {α : Type} {read : String → Value → Reading α}
    (h : ∀ place w, ¬ FailsWith P (read place w)) (w : Value) (name : String)
    (default : α) : ¬ FailsWith P (field read place w name default) := by
  unfold field
  split
  · simp
  · exact h _ _

section Tables

variable {α : Type} [Vocabulary α] [DecidableEq α]

include hP in
theorem not_failsWith_overrideWeights (entries : List (Scalar × Value)) (base : α → Number)
    (hkeys : ∀ e ∈ entries, ¬ P (unknownKeyError place e.1)) :
    ¬ FailsWith P (overrideWeights place base entries) := by
  induction entries generalizing base with
  | nil => simp [overrideWeights]
  | cons e entries ih =>
    obtain ⟨key, w⟩ := e
    obtain ⟨hkey, hrest⟩ := List.forall_mem_cons.mp hkeys
    -- Only a text can name a weight.
    cases key with
    | text s =>
      rw [overrideWeights]
      split
      · simp only [failsWith_bind_iff, not_failsWith_weight hP, false_or]
        rintro ⟨x, -, h⟩
        exact ih _ hrest h
      · simpa using hkey
    | _ => simpa [overrideWeights] using hkey

include hP in
theorem not_failsWith_weightTable (base : α → Number)
    (hkeys : ∀ entries, v = some (.table entries) →
      ∀ e ∈ entries, ¬ P (unknownKeyError place e.1)) :
    ¬ FailsWith P (weightTable place v base) := by
  unfold weightTable
  split
  · simp
  · exact not_failsWith_overrideWeights hP _ _ _ (hkeys _ rfl)
  · exact not_failsWith_error hP trivial

end Tables

end Parts

include hP in
theorem not_failsWith_limits (v : Option Value) : ¬ FailsWith P (Limits.ofValue v) := by
  unfold Limits.ofValue
  rw [failsWith_bind_iff]
  rintro (h | ⟨w, -, h⟩)
  · exact not_failsWith_section? hP _ _ h
  · cases w with
    | none => simp at h
    | some w =>
      simp [failsWith_bind_iff, not_failsWith_field _ (not_failsWith_positiveInt hP)] at h

include hP in
theorem not_failsWith_weights (v : Option Value)
    (hkeys : ∀ name entries, v.bind (·.get? name) = some (.table entries) →
      ∀ place, ∀ e ∈ entries, ¬ P (unknownKeyError place e.1)) :
    ¬ FailsWith P (Weights.ofValue v) := by
  unfold Weights.ofValue
  rw [failsWith_bind_iff]
  rintro (h | ⟨w, hw, h⟩)
  · exact not_failsWith_section? hP _ _ h
  · obtain ⟨hv, -⟩ := section?_eq_ok_iff.mp hw
    cases w with
    | none => simp at h
    | some w =>
      have htable : ∀ {α : Type} [Vocabulary α] [DecidableEq α] (place name : String)
          (base : α → Number), ¬ FailsWith P (weightTable place (w.get? name) base) := by
        intro α _ _ place name base
        refine not_failsWith_weightTable hP place _ base fun entries hentries => ?_
        exact hkeys name entries (by rw [← hv]; exact hentries) place
      simp [failsWith_bind_iff, htable, not_failsWith_field _ (not_failsWith_weight hP),
        not_failsWith_field _ (not_failsWith_positive hP),
        not_failsWith_field _ (not_failsWith_positiveInt hP)] at h

include hP in
theorem not_failsWith_readSummaryOnly (v : Option Value) :
    ¬ FailsWith P (readSummaryOnly v) := by
  unfold readSummaryOnly
  rw [failsWith_bind_iff]
  rintro (h | ⟨w, -, h⟩)
  · exact not_failsWith_section? hP _ _ h
  · cases w with
    | none => simp at h
    | some w =>
      simp only at h
      split at h
      · simp at h
      · simp at h
      · rw [failsWith_throw_iff] at h
        exact hP (.notBoolean _) trivial h

include hP in
theorem not_failsWith_readTypes (items : List Value) (place : ℕ) (known : List CommentType) :
    ¬ FailsWith P (readTypes place known items) := by
  induction items generalizing place known with
  | nil => simp [readTypes]
  | cons v items ih =>
    rw [readTypes]
    split
    · exact not_failsWith_error hP trivial
    · exact ih _ _

include hP in
theorem not_failsWith_readAllowedTypes (v : Option Value) :
    ¬ FailsWith P (readAllowedTypes v) := by
  unfold readAllowedTypes
  rw [failsWith_bind_iff]
  have hbad : ¬ P .badTypeList := hP _ trivial
  rintro (h | ⟨w, -, h⟩)
  · exact not_failsWith_section? hP _ _ h
  · cases w with
    | none => simp at h
    | some w =>
      simp only at h
      split at h
      · simp at h
      · exact hbad (failsWith_throw_iff.mp h)
      · exact not_failsWith_readTypes hP _ _ _ h
      · exact hbad (failsWith_throw_iff.mp h)

include hP in
theorem not_failsWith_readGlobs (items : List Value) (place : ℕ) :
    ¬ FailsWith P (readGlobs place items) := by
  have hbad : ∀ place, ¬ P (.badGlob place) := fun _ => hP _ trivial
  induction items generalizing place with
  | nil => simp [readGlobs]
  | cons v items ih =>
    rw [readGlobs]
    split
    · simpa using hbad place
    · simpa using hbad place
    · rw [failsWith_map_iff]
      exact ih _

include hP in
theorem not_failsWith_readIgnore (v : Option Value) : ¬ FailsWith P (readIgnore v) := by
  unfold readIgnore
  split
  · simp
  · exact not_failsWith_readGlobs hP _ _
  · exact not_failsWith_error hP trivial

include hP in
/-- Beside the faults of a document, there are those of the keys of its tables only. -/
theorem not_failsWith_ofValue (v : Value)
    (hkeys : ∀ sectionName name entries, v.setting? sectionName name = some (.table entries) →
      ∀ place, ∀ e ∈ entries, ¬ P (unknownKeyError place e.1)) :
    ¬ FailsWith P (Settings.ofValue v) := by
  unfold Settings.ofValue
  split_ifs
  · simp
  · simp [failsWith_bind_iff, not_failsWith_limits hP,
      not_failsWith_weights hP _ (hkeys "scoring"), not_failsWith_readSummaryOnly hP,
      not_failsWith_readAllowedTypes hP, not_failsWith_readIgnore hP]
  · exact not_failsWith_error hP trivial

/-- A document has no fault of a file. -/
theorem not_failsWith_isOfFile_ofValue (v : Value) :
    ¬ FailsWith SettingsError.IsOfFile (Settings.ofValue v) :=
  not_failsWith_ofValue (fun _ h => h.not_isOfFile) v
    fun _ _ _ _ _ _ _ => not_isOfFile_unknownKeyError _ _

end Triage
