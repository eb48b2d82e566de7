import Triage.Proofs.Finding.Roundtrip
import Triage.Proofs.Traversal
import Triage.Summary.Merge

/-!
# Summaries as documents

A summary is read back as it was written if its diagram, should it have one, says something
(`ofValue_toValue`). So does the diagram of every summary that was read (`hasDiagram_of_ofValue`),
and hence that of two such summaries merged (`HasDiagram.merge`).
-/

namespace Triage

open Vocabulary

/-! ### Fields -/

theorem displayField_text {v : Value} {name s : String} (h : v.get? name = some (.text s)) :
    v.displayField name = s := by
  unfold Value.displayField
  rw [h]
  by_cases hs : s = ""
  · rw [hs]
    rfl
  · have hvoid : (Value.text s).unlessVoid = some (.text s) := by
      have hempty : (Value.text s).isVoid = false := by
        show s.isEmpty = false
        rw [← Bool.not_eq_true, String.isEmpty_iff]
        exact hs
      rw [Value.unlessVoid, hempty]
      rfl
    rw [Option.bind_some, hvoid]
    rfl

theorem fieldElements_list (items : List Value) :
    fieldElements (some (.list items)) = .ok items := by
  cases items with
  | nil => rfl
  | cons item items => rfl

theorem map_display_text (texts : List String) :
    (texts.map Value.text).map Value.display = texts := by
  rw [List.map_map]
  exact List.map_id texts

theorem readConfidence_real (x : Option Double) :
    readConfidence (x.map Value.real) = .ok x := by
  cases x with
  | none => rfl
  | some x => rfl

/-! ### Notes -/

theorem FileNote.ofValue_toValue (n : FileNote) : FileNote.ofValue n.toValue = .ok n := by
  have hfields : n.toValue.get? "path" = some (.text n.path) ∧
      n.toValue.get? "summary" = some (.text n.summary) ∧
      n.toValue.get? "risk" = n.risk.map fun r => .text (word r) := by
    unfold toValue
    cases n.risk with
    | none => simp [Value.get?]
    | some r => simp [Value.get?]
  obtain ⟨hpath, hsummary, hrisk⟩ := hfields
  have htext : (some (Value.text n.path)).bind Value.text? = some n.path := rfl
  unfold FileNote.ofValue
  rw [hpath, htext, hrisk, displayField_text hsummary, isLegible_risk.optionalWord]

theorem mapM_ofValue_toValue (notes : List FileNote) :
    (notes.map FileNote.toValue).mapM FileNote.ofValue = .ok notes := by
  rw [mapM_eq_ok_iff, List.forall₂_map_left_iff, List.forall₂_same]
  exact fun n _ => n.ofValue_toValue

/-! ### Whole summaries -/

namespace RunSummary

/-- Whether the diagram of a summary says something, if there is one. -/
def HasDiagram (s : RunSummary) : Prop :=
  ∀ d, s.diagram = some d → d.isVoid = false

/-- The fields of a summary that was written. -/
theorem get?_toValue {s : RunSummary} (h : s.HasDiagram) :
    s.toValue.get? "overview" = some (.text s.overview) ∧
    s.toValue.get? "risk" = some (.text (word s.risk)) ∧
    s.toValue.get? "key_concerns" = some (.list (s.keyConcerns.map .text)) ∧
    s.toValue.get? "what_to_test" = some (.list (s.whatToTest.map .text)) ∧
    s.toValue.get? "file_breakdown" = some (.list (s.fileNotes.map FileNote.toValue)) ∧
    s.toValue.get? "confidence" = s.confidence.map .real ∧
    s.toValue.get? "diagram_mermaid" = s.diagram := by
  have hlist : ∀ items, (Value.list items).isNull = false := fun _ => rfl
  have hreal : ∀ x, (Value.real x).isNull = false := fun _ => rfl
  have hdiagram : ∀ d, s.diagram = some d → d.isNull = false := by
    intro d hd
    have hvoid := h d hd
    -- Null is void, and nothing else is null.
    cases d with
    | scalar c => cases c with
      | null => exact absurd hvoid (by decide)
      | _ => rfl
    | _ => rfl
  unfold toValue
  cases hd : s.diagram with
  | none => cases s.confidence with
    | none => simp [Value.get?, hlist]
    | some x => simp [Value.get?, hlist, hreal]
  | some d => cases s.confidence with
    | none => simp [Value.get?, hlist, hdiagram d hd]
    | some x => simp [Value.get?, hlist, hreal, hdiagram d hd]

theorem ofValue_toValue {s : RunSummary} (h : s.HasDiagram) : ofValue s.toValue = .ok s := by
  obtain ⟨hoverview, hrisk, hconcerns, htests, hnotes, hconfidence, hdiagram⟩ := get?_toValue h
  have htable : s.toValue.isTable = true := rfl
  have hread : Triage.optionalWord Risk (some (.text (word s.risk))) = some s.risk :=
    isLegible_risk.optionalWord (some s.risk)
  have hsome : s.diagram.bind Value.unlessVoid = s.diagram := by
    cases hd : s.diagram with
    | none => rfl
    | some d =>
      show d.unlessVoid = some d
      rw [Value.unlessVoid, h d hd]
      rfl
  unfold ofValue
  rw [if_pos htable, hrisk, hread, hnotes, hconcerns, htests, hconfidence, hdiagram, hsome,
    displayField_text hoverview]
  simp only [fieldElements_list, readConfidence_real]
  have hmap := mapM_ofValue_toValue s.fileNotes
  simp only [bind, Except.bind, hmap, pure, Except.pure, map_display_text]

theorem hasDiagram_of_ofValue {v : Value} {s : RunSummary} (h : ofValue v = .ok s) :
    s.HasDiagram := by
  unfold ofValue at h
  rw [ite_throw_eq_ok_iff] at h
  obtain ⟨-, h⟩ := h
  split at h
  · exact absurd h throw_ne_ok
  · simp only [bind_eq_ok_iff, pure_eq_ok_iff] at h
    obtain ⟨_, -, _, -, _, -, _, -, _, -, rfl⟩ := h
    intro d hd
    obtain ⟨w, -, hw⟩ := Option.bind_eq_some_iff.mp hd
    unfold Value.unlessVoid at hw
    split_ifs at hw with hvoid
    obtain rfl := Option.some.inj hw
    exact Bool.eq_false_iff.mpr hvoid

/-- The diagram of a merged summary is that of one of the two. -/
theorem diagram_merge {s t : RunSummary} {cap : ℤ} {d : Value}
    (h : (s.merge t cap).diagram = some d) : s.diagram = some d ∨ t.diagram = some d :=
  (Option.or_eq_some_iff.mp h).imp_right And.right

theorem HasDiagram.merge {s t : RunSummary} (hs : s.HasDiagram) (ht : t.HasDiagram) (cap : ℤ) :
    (s.merge t cap).HasDiagram :=
  fun d hd => (diagram_merge hd).elim (hs d) (ht d)

/-- Whether a summary is read back from its document. -/
def Survives (s : RunSummary) : Prop :=
  ofValue s.toValue = .ok s

theorem survives_iff {s : RunSummary} : s.Survives ↔ s.HasDiagram :=
  ⟨hasDiagram_of_ofValue, ofValue_toValue⟩

end RunSummary

end Triage
