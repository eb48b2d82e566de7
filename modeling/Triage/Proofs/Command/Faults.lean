import Triage.Proofs.Command.Reviews
import Triage.Proofs.Command.Texts
import Triage.Proofs.Settings.Faults
import Triage.Proofs.Summary.Faults

/-!
# Input files that end a command

Most of what is wrong with an input file is reported. For each reader there is a condition on the
file that says what is not: a part of it is beyond a limit, a name cannot be that of a file, or
settings are no text.
-/

namespace Triage.Command

variable {files : Files} {file : String}

/-- Whether a fault ends a command at once. -/
def InputError.IsFatal (e : InputError) : Prop :=
  e.isUnexpected = true

/-- What is placed in a file as a fault that is reported does not end a command. -/
theorem not_isFatal_placed {ε α : Type} {place : ε → InputError}
    (h : ∀ e, (place e).isUnexpected = false) (r : Except ε α) :
    ¬ FailsWith InputError.IsFatal (placed place r) := by
  intro hfails
  obtain ⟨e, -, hfatal⟩ := failsWith_mapError_iff.mp hfails
  exact Bool.false_ne_true ((h e).symm.trans hfatal)

/-! ### Texts -/

theorem isFatal_readText_iff :
    FailsWith InputError.IsFatal (readText files file) ↔ files file = .error .nullCharacter := by
  unfold readText
  split
  · rename_i bytes hbytes
    rw [hbytes]
    cases decode? bytes <;> simp [InputError.IsFatal, InputError.isUnexpected]
  · rename_i hname
    simp [hname, InputError.IsFatal, InputError.isUnexpected]
  · rename_i f hne hf
    rw [hf]
    simpa [InputError.IsFatal, InputError.isUnexpected] using hne

/-- Whether a file with a text is beyond its reader: no file has its name, or a part of the text is
beyond a limit. -/
inductive StopsText (isBeyond : String → LimitError → Prop) (files : Files) (file : String) : Prop
  | name (unnamable : files file = .error .nullCharacter)
  | text {text : String} {e : LimitError} (held : readText files file = .ok text)
    (beyond : isBeyond text e)

/-- A reader of what a text says fails with errors that are placed in the file. -/
theorem isFatal_readText_bind_iff {ε α : Type} {place : ε → InputError}
    {read : String → Except ε α} {isBeyond : String → LimitError → Prop}
    (h : ∀ text, FailsWith (fun e => (place e).IsFatal) (read text) ↔ ∃ e, isBeyond text e) :
    FailsWith InputError.IsFatal (readText files file >>= fun s => (read s).mapError place) ↔
      StopsText isBeyond files file := by
  simp only [failsWith_bind_iff, isFatal_readText_iff, failsWith_mapError_iff, h]
  constructor
  · rintro (hname | ⟨text, htext, e, hbeyond⟩)
    · exact .name hname
    · exact .text htext hbeyond
  · rintro (hname | ⟨htext, hbeyond⟩)
    · exact Or.inl hname
    · exact Or.inr ⟨_, htext, _, hbeyond⟩

/-! ### Documents -/

/-- Whether a file with a document is beyond its reader. -/
abbrev StopsDocument [Nesting] : Files → String → Prop :=
  StopsText fun text e => Json.read text = .error (.limit e)

theorem isFatal_readDocument_iff [Nesting] :
    FailsWith InputError.IsFatal (readDocument files file) ↔ StopsDocument files file := by
  refine isFatal_readText_bind_iff fun text => ?_
  cases Json.read text with
  | ok v => simp
  | error e => cases e <;> simp [InputError.IsFatal, InputError.ofJson, InputError.isUnexpected]

theorem isFatal_readList_iff [Nesting] :
    FailsWith InputError.IsFatal (readList files file) ↔ StopsDocument files file := by
  unfold readList
  rw [failsWith_bind_iff, isFatal_readDocument_iff, or_iff_left]
  rintro ⟨v, -, hv⟩
  cases v with
  | list items => simp at hv
  | _ => simp [InputError.IsFatal, InputError.isUnexpected] at hv

/-! ### Settings -/

/-- The value of a text with settings. -/
abbrev markup [Nesting] (text : String) : Except Yaml.Fault Value :=
  Yaml.read (String.ofList (Text.unifyLineEnds text.toList))

/-- Whether a file with settings is beyond its reader: it is there but cannot be read, it is no
text, a scalar in it does not mean what it should, or a key in a table of weights is too long. -/
inductive StopsSettings [Nesting] (files : Files) (file : String) : Prop
  | file {f : FileFault} (fault : files file = .error f) (there : f ≠ .missing)
  | encoding {bytes : List UInt8} (held : files file = .ok bytes)
    (undecodable : String.fromUTF8? ⟨bytes.toArray⟩ = none)
  | markup {bytes : List UInt8} {text : String} {f : Yaml.Fault} (held : files file = .ok bytes)
    (decoded : String.fromUTF8? ⟨bytes.toArray⟩ = some text) (fault : markup text = .error f)
    (meant : f ≠ .malformed)
  | key {bytes : List UInt8} {text : String} {v : Value} {e : LimitError}
    (held : files file = .ok bytes) (decoded : String.fromUTF8? ⟨bytes.toArray⟩ = some text)
    (read : markup text = .ok v) (beyond : Settings.ofValue v = .error (.limit e))

theorem isFatal_settings_iff {e : SettingsError} :
    (InputError.settings e).IsFatal ↔ e.IsOfFile ∨ ∃ l, e = .limit l := by
  cases e <;> simp [InputError.IsFatal, InputError.isUnexpected, SettingsError.IsOfFile]

theorem ofFile_eq [Nesting] (text : String) :
    Settings.ofFile file (some text) = match markup text with
      | .error f => .error (.ofFault file f)
      | .ok v => Settings.ofValue v := rfl

theorem isFatal_ofFile_iff [Nesting] {text : String} :
    FailsWith (fun e => (InputError.settings e).IsFatal) (Settings.ofFile file (some text)) ↔
      (∃ f, markup text = .error f ∧ f ≠ .malformed) ∨
        ∃ v e, markup text = .ok v ∧ Settings.ofValue v = .error (.limit e) := by
  rw [ofFile_eq]
  cases markup text with
  | error f =>
    cases f <;> simp [SettingsError.ofFault, isFatal_settings_iff, SettingsError.IsOfFile]
  | ok v =>
    simp only [isFatal_settings_iff, reduceCtorEq, false_and, exists_false, false_or,
      Except.ok.injEq]
    constructor
    -- A document has no fault of a file, so a limit is left.
    · rintro ⟨e, he, hfile | ⟨l, rfl⟩⟩
      · exact absurd ⟨e, he, hfile⟩ (not_failsWith_isOfFile_ofValue v)
      · exact ⟨v, l, rfl, he⟩
    · rintro ⟨_, l, rfl, hl⟩
      exact ⟨_, hl, Or.inr ⟨l, rfl⟩⟩

theorem isFatal_readSettings_iff [Nesting] {name : Option String} :
    FailsWith InputError.IsFatal (readSettings files name) ↔
      ∃ file, name = some file ∧ StopsSettings files file := by
  cases name with
  | none => simp [readSettings]
  | some file =>
    simp only [Option.some.injEq, exists_eq_left']
    constructor
    · intro h
      -- A missing file is reported, and so is a text that is no markup.
      unfold readSettings at h
      simp only at h
      split at h
      · simp [InputError.IsFatal, InputError.isUnexpected] at h
      · rename_i f hne hf
        exact .file hf hne
      · rename_i bytes hbytes
        split at h
        · rename_i hdecode
          exact .encoding hbytes hdecode
        · rename_i text hdecode
          rcases isFatal_ofFile_iff.mp (failsWith_mapError_iff.mp h) with
            ⟨f, hf, hmeant⟩ | ⟨v, e, hv, hbeyond⟩
          · exact .markup hbytes hdecode hf hmeant
          · exact .key hbytes hdecode hv hbeyond
    · intro h
      unfold readSettings
      cases h with
      | @file f hf hne =>
        cases f with
        | missing => exact absurd rfl hne
        | _ => simp [hf, InputError.IsFatal, InputError.isUnexpected]
      | encoding hbytes hdecode =>
        simp [hbytes, hdecode, isFatal_settings_iff, SettingsError.IsOfFile]
      | markup hbytes hdecode hf hmeant =>
        simp only [hbytes, hdecode]
        exact failsWith_mapError_iff.mpr (isFatal_ofFile_iff.mpr (Or.inl ⟨_, hf, hmeant⟩))
      | key hbytes hdecode hv hbeyond =>
        simp only [hbytes, hdecode]
        exact failsWith_mapError_iff.mpr (isFatal_ofFile_iff.mpr (Or.inr ⟨_, _, hv, hbeyond⟩))

/-! ### Diffs -/

/-- Whether a file with a diff is beyond its reader: a number in the header of a hunk is too long,
or a hunk has half of a surrogate pair. -/
abbrev StopsDiff : Files → String → Prop :=
  StopsText fun text e => DiffIndex.ofPatch text = .error (.limit e)

theorem isFatal_readDiff_iff :
    FailsWith InputError.IsFatal (readDiff files file) ↔ StopsDiff files file := by
  refine isFatal_readText_bind_iff fun text => ?_
  cases DiffIndex.ofPatch text with
  | ok index => simp
  | error e => cases e <;> simp [InputError.IsFatal, InputError.isUnexpected]

/-! ### Reviews -/

/-- Whether a file with a review is beyond its reader: as a document, or in its summary. -/
inductive StopsReview [Nesting] (files : Files) (file : String) : Prop
  | document (stops : StopsDocument files file)
  | summary {v s : Value} {comments : List Value} (read : readDocument files file = .ok v)
    (listed : comments? v = some comments) (beside : v.get? "summary" = some s)
    (table : s.isTable = true) (risk : optionalWord Risk (s.get? "risk") ≠ none)
    (stops : StopsReader s)

theorem isFatal_summary_iff {e : SummaryError} :
    (InputError.summary file e).IsFatal ↔ e.IsUnreported := by
  cases e <;> simp [InputError.IsFatal, InputError.isUnexpected, SummaryError.IsUnreported]

theorem isFatal_summary?_iff {v : Value} :
    FailsWith (fun e => (InputError.summary file e).IsFatal) (summary? v) ↔
      ∃ s, v.get? "summary" = some s ∧ s.isTable = true ∧
        optionalWord Risk (s.get? "risk") ≠ none ∧ StopsReader s := by
  simp only [isFatal_summary_iff]
  unfold summary?
  cases v.get? "summary" with
  | none => simp
  | some s =>
    simp only [Option.some.injEq, exists_eq_left']
    rw [failsWith_map_iff]
    exact RunSummary.failsWith_ofValue_iff

theorem isFatal_readReview_iff [Nesting] :
    FailsWith InputError.IsFatal (readReview files file) ↔ StopsReview files file := by
  rw [readReview_eq, failsWith_bind_iff, isFatal_readDocument_iff]
  constructor
  · rintro (hstops | ⟨v, hv, h⟩)
    · exact .document hstops
    · split at h
      · simp [InputError.IsFatal, InputError.isUnexpected] at h
      · rename_i comments hcomments
        rw [failsWith_map_iff] at h
        obtain ⟨s, hs, htable, hrisk, hstops⟩ :=
          isFatal_summary?_iff.mp (failsWith_mapError_iff.mp h)
        exact .summary hv hcomments hs htable hrisk hstops
  · rintro (hstops | ⟨hv, hcomments, hs, htable, hrisk, hstops⟩)
    · exact Or.inl hstops
    · refine Or.inr ⟨_, hv, ?_⟩
      rw [hcomments]
      simp only
      rw [failsWith_map_iff]
      exact failsWith_mapError_iff.mpr (isFatal_summary?_iff.mpr ⟨_, hs, htable, hrisk, hstops⟩)

theorem isFatal_readExtra_iff [Nesting] {name : Option String} :
    FailsWith InputError.IsFatal (readExtra files name) ↔
      ∃ file, name = some file ∧ StopsReview files file := by
  cases name with
  | none => simp [readExtra]
  | some file =>
    simp only [Option.some.injEq, exists_eq_left']
    unfold readExtra
    rw [failsWith_map_iff]
    exact isFatal_readReview_iff

/-! ### Changed files and feedback -/

theorem isFatal_readChangedFiles_iff [Nesting] {name : Option String} :
    FailsWith InputError.IsFatal (readChangedFiles files name) ↔
      ∃ file, name = some file ∧ StopsDocument files file := by
  cases name with
  | none => simp [readChangedFiles]
  | some file =>
    simp only [Option.some.injEq, exists_eq_left']
    unfold readChangedFiles
    rw [failsWith_bind_iff, isFatal_readList_iff, or_iff_left]
    rintro ⟨items, -, h⟩
    exact not_isFatal_placed (fun _ => rfl) _ h

/-- Whether a file with a feedback policy is beyond its reader, which reports names that no file has
and integers that are too long. -/
def StopsPolicy [Nesting] (files : Files) (file : String) : Prop :=
  ∃ text e, readText files file = .ok text ∧ Json.read text = .error (.limit e) ∧
    ∀ digits, e ≠ .tooLongToRead digits

theorem isFatal_inPolicy_iff {e : InputError} :
    (e.inPolicy file).IsFatal ↔ e.IsFatal ∧ ∀ u, e = .unforeseen u → u.isWrongValue = false := by
  cases e with
  | unforeseen u =>
    cases h : u.isWrongValue <;>
      simp [InputError.inPolicy, h, InputError.IsFatal, InputError.isUnexpected]
  | _ => simp [InputError.inPolicy]

theorem isWrongValue_limit_iff {e : LimitError} :
    (Unforeseen.limit e).isWrongValue = false ↔ ∀ digits, e ≠ .tooLongToRead digits := by
  cases e <;> simp [Unforeseen.isWrongValue]

/-- The error of a document that could not be read is a wrong value, or tells of a limit. -/
theorem failsWith_inPolicy_readDocument_iff [Nesting] :
    FailsWith (fun e => (InputError.inPolicy file e).IsFatal) (readDocument files file) ↔
      StopsPolicy files file := by
  simp only [isFatal_inPolicy_iff]
  unfold readDocument
  rw [failsWith_bind_iff, or_iff_right]
  · refine exists_congr fun text => ?_
    rw [failsWith_mapError_iff]
    constructor
    · rintro ⟨htext, e, he, hfatal, hvalue⟩
      cases e with
      | malformed => simp [InputError.IsFatal, InputError.ofJson, InputError.isUnexpected] at hfatal
      | limit l => exact ⟨l, htext, he, isWrongValue_limit_iff.mp (hvalue _ rfl)⟩
    · rintro ⟨l, htext, he, hl⟩
      refine ⟨htext, .limit l, he, rfl, ?_⟩
      rintro u ⟨⟩
      exact isWrongValue_limit_iff.mpr hl
  · -- A text has no fatal error but that of its name, which is a wrong value.
    rintro ⟨e, he, hfatal, hvalue⟩
    have hname := isFatal_readText_iff.mp ⟨e, he, hfatal⟩
    rw [readText, hname] at he
    obtain rfl := Except.error.inj he
    exact absurd (hvalue _ rfl) (by simp [Unforeseen.isWrongValue])

theorem isFatal_readPolicy_iff [Nesting] {name : Option String} :
    FailsWith InputError.IsFatal (readPolicy files name) ↔
      ∃ file, name = some file ∧ StopsPolicy files file := by
  cases name with
  | none => simp [readPolicy]
  | some file =>
    simp only [Option.some.injEq, exists_eq_left']
    unfold readPolicy
    rw [failsWith_bind_iff, failsWith_mapError_iff, failsWith_inPolicy_readDocument_iff,
      or_iff_left]
    rintro ⟨v, -, h⟩
    exact not_isFatal_placed (fun _ => rfl) _ h

end Triage.Command
