import Mathlib.Data.Int.Notation
import Mathlib.Data.Nat.Notation
import Triage.Finding.Reading
import Triage.Proofs.Guards

/-!
# Findings as documents

What `Finding.toValue` writes is read back as the same finding if its line counts from one
(`ofValue_toValue`), and so does the line of every finding that was read (`one_le_line`).
-/

namespace Triage

open Vocabulary

/-! ### Fields of records -/

namespace Value

@[simp]
theorem sameKey_text (a b : String) : (Scalar.text a).sameKey (.text b) = decide (a = b) := by
  simp [Scalar.sameKey, Scalar.numeric?]

@[simp]
theorem field?_record_nil (name : String) : (record []).field? name = none := rfl

@[simp]
theorem field?_record_cons (name other : String) (v : Value) (fields : List (String × Value)) :
    (record ((other, v) :: fields)).field? name =
      if other = name then some v else (record fields).field? name := by
  simp [record, field?, findEntry]

@[simp]
theorem isNull_text (s : String) : (text s).isNull = false := rfl

@[simp]
theorem isNull_nat (n : ℕ) : (nat n).isNull = false := rfl

@[simp]
theorem isTable_record (fields : List (String × Value)) : (record fields).isTable = true := rfl

end Value

/-! ### Words -/

/-- Whether the words of a vocabulary are read as what they spell. -/
structure IsLegible (α : Type) [Vocabulary α] : Prop where
  ofWord? : ∀ a : α, ofWord? (Text.label (word a)) = some a
  notBlank : ∀ a : α, Text.trim (word a).toList ≠ []

theorem isLegible_severity : IsLegible Severity where
  ofWord? := by rintro (_ | _ | _) <;> decide
  notBlank := by rintro (_ | _ | _) <;> decide

theorem isLegible_category : IsLegible Category where
  ofWord? := by rintro (_ | _ | _ | _ | _ | _) <;> decide
  notBlank := by rintro (_ | _ | _ | _ | _ | _) <;> decide

theorem isLegible_confidence : IsLegible Confidence where
  ofWord? := by rintro (_ | _ | _) <;> decide
  notBlank := by rintro (_ | _ | _) <;> decide

theorem isLegible_risk : IsLegible Risk where
  ofWord? := by rintro (_ | _ | _) <;> decide
  notBlank := by rintro (_ | _ | _) <;> decide

variable {α : Type} [Vocabulary α]

theorem IsLegible.requiredWord (h : IsLegible α) (field : String) (a : α) :
    requiredWord α field (some (.text (word a))) = .ok a := by
  have hword : (some (Value.text (word a))).bind Value.text? = some (word a) := rfl
  unfold Triage.requiredWord
  rw [hword]
  simp only [if_neg (h.notBlank a), h.ofWord? a]

theorem IsLegible.optionalWord (h : IsLegible α) (a : Option α) :
    optionalWord α (a.map fun a => .text (word a)) = a := by
  cases a with
  | none => rfl
  | some a => exact h.ofWord? a

theorem readSide_word (side : Side) : readSide (some (.text (word side))) = .ok side := by
  have hword : ofWord? (String.ofList (Text.upper (Text.trim (word side).toList))) = some side := by
    cases side with
    | right => decide +kernel
    | left => decide +kernel
  have htext : (Value.text (word side)).text? = some (word side) := rfl
  unfold readSide
  simp only [htext, hword]

theorem readCommentType_word (t : CommentType) :
    readCommentType (some (.text (word t))) = t := by
  cases t with
  | inline => decide
  | summary => decide

theorem readPatch_text (patch : Option String) : readPatch (patch.map Value.text) = .ok patch := by
  cases patch with
  | none => rfl
  | some s => rfl

/-! ### Lines -/

theorem lineOfNumber?_nat {n : ℕ} (h : 1 ≤ n) : lineOfNumber? (.int n) = some n := by
  have hline : (1 : ℤ) ≤ n := by omega
  rw [lineOfNumber?, if_pos hline, Int.toNat_natCast]

theorem one_le_of_lineOfNumber? {x : Number} {n : ℕ} (h : lineOfNumber? x = some n) : 1 ≤ n := by
  cases x with
  | int m =>
    rw [lineOfNumber?, Option.ite_none_right_eq_some] at h
    obtain ⟨hm, hn⟩ := h
    have := Option.some.inj hn
    omega
  | real x =>
    rw [lineOfNumber?, Option.map_eq_some_iff] at h
    obtain ⟨m, hm, rfl⟩ := h
    have hle := (Option.filter_eq_some_iff.mp hm).2
    rw [decide_eq_true_iff] at hle
    omega

theorem readLine_nat {n : ℕ} (h : 1 ≤ n) : readLine (some (.nat n)) = .ok n := by
  have hnumber : ((some (Value.nat n)).bind Value.number?).bind lineOfNumber? = some n :=
    lineOfNumber?_nat h
  rw [readLine, hnumber]

theorem one_le_of_readLine {v : Option Value} {n : ℕ} (h : readLine v = .ok n) : 1 ≤ n := by
  unfold readLine at h
  split at h
  · rename_i m hm
    obtain rfl := Except.ok.inj h
    obtain ⟨x, -, hx⟩ := Option.bind_eq_some_iff.mp hm
    exact one_le_of_lineOfNumber? hx
  · exact absurd h (by simp)

/-! ### Whole findings -/

namespace Finding

/-- The lines of a finding that was read count from one. -/
theorem one_le_line {v : Value} {f : Finding} (h : ofValue v = .ok f) : 1 ≤ f.line := by
  unfold ofValue at h
  simp only [ite_throw_eq_ok_iff, bind_eq_ok_iff, pure_eq_ok_iff] at h
  obtain ⟨-, _, -, _, -, _, -, _, -, _, -, line, hline, h⟩ := h
  obtain ⟨_, -, _, -, _, -, _, -, _, -, rfl⟩ := h
  exact one_le_of_readLine hline

/-- The fields of a finding that was written. -/
theorem get?_toValue (f : Finding) :
    f.toValue.getFirst? ["suggested_patch", "suggestedPatch"] = f.suggestedPatch.map .text ∧
    f.toValue.getFirst? ["comment_id", "id"] = some (.text f.id) ∧
    f.toValue.getFirst? ["comment_key", "key"] = some (.text f.key) ∧
    f.toValue.get? "path" = some (.text f.path) ∧
    f.toValue.get? "side" = some (.text (word f.side)) ∧
    f.toValue.get? "line" = some (.nat f.line) ∧
    f.toValue.get? "severity" = some (.text (word f.severity)) ∧
    f.toValue.get? "category" = some (.text (word f.category)) ∧
    f.toValue.get? "title" = some (.text f.title) ∧
    f.toValue.get? "body" = some (.text f.body) ∧
    f.toValue.get? "evidence" = some (.text f.evidence) ∧
    f.toValue.getFirst? ["comment_type", "commentType"] = some (.text (word f.commentType)) ∧
    f.toValue.get? "confidence" = f.confidence.map fun c => .text (word c) := by
  unfold toValue
  -- Which entries there are depends on the optional fields only.
  cases f.suggestedPatch with
  | none => cases f.confidence with
    | none => simp [Value.get?, Value.getFirst?]
    | some c => simp [Value.get?, Value.getFirst?]
  | some patch => cases f.confidence with
    | none => simp [Value.get?, Value.getFirst?]
    | some c => simp [Value.get?, Value.getFirst?]

/-- A finding that is written is read back, if its line counts from one. -/
theorem ofValue_toValue {f : Finding} (h : 1 ≤ f.line) : ofValue f.toValue = .ok f := by
  obtain ⟨hpatch, hid, hkey, hpath, hside, hline, hseverity, hcategory, htitle, hbody, hevidence,
    htype, hconfidence⟩ := f.get?_toValue
  have htext : ∀ field s, requiredText field (some (.text s)) = .ok s := fun _ _ => rfl
  have hopt : ∀ field s, optionalText field (some (.text s)) = .ok s := fun _ _ => rfl
  have htable : f.toValue.isTable = true := rfl
  unfold ofValue
  rw [if_pos htable, hpatch, hid, hkey, hpath, hside, hline, hseverity, hcategory, htitle, hbody,
    hevidence, htype, hconfidence]
  simp only [readPatch_text, hopt, htext, readSide_word, readLine_nat h,
    isLegible_severity.requiredWord, isLegible_category.requiredWord, readCommentType_word,
    isLegible_confidence.optionalWord]
  rfl

/-- Whether a finding is read back from its document. -/
def Survives (f : Finding) : Prop :=
  ofValue f.toValue = .ok f

theorem survives_iff {f : Finding} : f.Survives ↔ 1 ≤ f.line :=
  ⟨one_le_line, ofValue_toValue⟩

end Finding

end Triage
