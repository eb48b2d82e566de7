import Triage.Proofs.Finding.Roundtrip
import Triage.Proofs.Occurrences
import Triage.Proofs.Traversal
import Triage.Settings.Reading

/-!
# Single settings

A setting is read iff its field has a value that means one, and then it is that one; without a
value it is the default (`IsSetting`). What a value means depends on the kind of setting: a count
(`MeansCount`), a weight (`MeansWeight`), a table of weights (`MeansTable`), kinds of comment
(`MeansTypes`), or globs (`MeansGlobs`).
-/

namespace Triage

open Vocabulary

/-- Whether a setting is one that its value means, or the default if it has no value. -/
def IsSetting {α : Type} (Means : Value → α → Prop) (given : Option Value) (default x : α) : Prop :=
  match given with
  | none => x = default
  | some v => Means v x

theorem IsSetting.of_forall {α : Type} {Means : Value → α → Prop} {given : Option Value}
    {default x : α} {P : α → Prop} (h : IsSetting Means given default x) (hdefault : P default)
    (hmeans : ∀ v x, Means v x → P x) : P x := by
  cases given with
  | none => exact h ▸ hdefault
  | some v => exact hmeans v x h

theorem field_eq_ok_iff {α : Type} {read : String → Value → Reading α} {sectionName : String}
    {v : Value} {name : String} {default x : α} :
    field read sectionName v name default = .ok x ↔
      IsSetting (fun w y => read (sectionName ++ "." ++ name) w = .ok y) (v.get? name) default
        x := by
  unfold field IsSetting
  cases v.get? name with
  | none => simp [eq_comm]
  | some w => rfl

/-! ### Counts and weights -/

/-- Whether a value means a count: it is a positive integer. -/
def MeansCount (v : Value) (n : ℤ) : Prop :=
  v.int? = some n ∧ 1 ≤ n

theorem positive_eq_ok_iff {place : String} {v : Value} {n : Positive} :
    positive place v = .ok n ↔ MeansCount v n.val := by
  unfold positive MeansCount
  have hpos := n.property
  cases v.int? with
  | none => simp
  | some m =>
    simp only [Option.some.injEq]
    split_ifs with h
    · simp only [false_iff]
      omega
    · rw [Except.ok.injEq, ← Subtype.val_inj]
      simp only
      omega

theorem positiveInt_eq_ok_iff {place : String} {v : Value} {n : ℕ} :
    positiveInt place v = .ok n ↔ MeansCount v n := by
  unfold positiveInt
  constructor
  · intro h
    obtain ⟨m, hm, rfl⟩ := exists_ok_of_map_eq_ok h
    exact positive_eq_ok_iff.mp hm
  · intro h
    have hpos : 0 < n := by
      have := h.2
      omega
    have hm : positive place v = .ok ⟨n, hpos⟩ := positive_eq_ok_iff.mpr h
    rw [hm]
    rfl

/-- Whether a value means a weight: it is a number, and not less than zero. -/
def MeansWeight (v : Value) (x : Number) : Prop :=
  v.number? = some x ∧ ¬ x < 0

theorem weight_eq_ok_iff {place : String} {v : Value} {x : Number} :
    weight place v = .ok x ↔ MeansWeight v x := by
  unfold weight MeansWeight
  cases v.number? with
  | none => simp
  | some y =>
    simp only [Option.some.injEq]
    split_ifs with h
    · simp only [false_iff]
      rintro ⟨rfl, hnot⟩
      exact hnot h
    · rw [Except.ok.injEq]
      constructor
      · rintro rfl
        exact ⟨rfl, h⟩
      · exact And.left

/-! ### Words -/

theorem text?_eq_some_iff {v : Value} {s : String} : v.text? = some s ↔ v = .text s := by
  cases v with
  | scalar a => cases a <;> simp [Value.text?, Value.text]
  | list items => simp [Value.text?, Value.text]
  | table entries => simp [Value.text?, Value.text]

/-- Whether every value of a vocabulary is the one that its word spells. -/
def IsSpelled (α : Type) [Vocabulary α] : Prop :=
  ∀ a : α, ofWord? (word a) = some a

theorem isSpelled_severity : IsSpelled Severity := by rintro (_ | _ | _) <;> decide

theorem isSpelled_confidence : IsSpelled Confidence := by rintro (_ | _ | _) <;> decide

theorem isSpelled_category : IsSpelled Category := by rintro (_ | _ | _ | _ | _ | _) <;> decide

theorem isSpelled_commentType : IsSpelled CommentType := by rintro (_ | _) <;> decide

section Words

variable {α : Type} [Vocabulary α]

theorem ofWord?_eq_some_iff (h : IsSpelled α) {s : String} {a : α} :
    ofWord? s = some a ↔ s = word a := by
  constructor
  · intro hs
    have hword := List.find?_some hs
    exact (of_decide_eq_true hword).symm
  · rintro rfl
    exact h a

/-- A text says a value of a vocabulary iff it is its word. -/
theorem text?_bind_ofWord?_eq_some_iff (h : IsSpelled α) {v : Value} {a : α} :
    v.text?.bind ofWord? = some a ↔ v = .text (word a) := by
  rw [Option.bind_eq_some_iff]
  simp only [text?_eq_some_iff, ofWord?_eq_some_iff h]
  constructor
  · rintro ⟨s, rfl, rfl⟩
    rfl
  · rintro rfl
    exact ⟨_, rfl, rfl⟩

/-! ### Tables of weights -/

/-- Whether a value means a table of weights over a default one: its keys are words, its values
mean weights, and what has no key keeps its weight. Of two weights of one word the later one
counts. -/
def MeansTable [DecidableEq α] (base : α → Number) (v : Value) (f : α → Number) : Prop :=
  ∃ entries, ∃ given : List (α × Number), v = .table entries ∧
    List.Forall₂ (fun e g => e.1 = .text (word g.1) ∧ MeansWeight e.2 g.2) entries given ∧
    f = fun a => (given.reverse.lookup a).getD (base a)

variable [DecidableEq α]

omit [Vocabulary α] in
/-- What is said of the first key holds for the ones behind it as a default. -/
theorem getD_lookup_reverse_cons (given : List (α × Number)) (base : α → Number) (a : α)
    (x : Number) :
    (fun b => (((a, x) :: given).reverse.lookup b).getD (base b)) =
      fun b => (given.reverse.lookup b).getD (if b = a then x else base b) := by
  funext b
  rw [List.reverse_cons, List.lookup_append]
  cases given.reverse.lookup b with
  | some y => rfl
  | none =>
    by_cases h : b = a
    · simp [h]
    · simp [List.lookup_cons, beq_eq_false_iff_ne.mpr h, h]

theorem overrideWeights_eq_ok_iff (hα : IsSpelled α) {place : String}
    {entries : List (Scalar × Value)} {base f : α → Number} :
    overrideWeights place base entries = .ok f ↔ ∃ given : List (α × Number),
      List.Forall₂ (fun e g => e.1 = .text (word g.1) ∧ MeansWeight e.2 g.2) entries given ∧
      f = fun a => (given.reverse.lookup a).getD (base a) := by
  induction entries generalizing base with
  | nil =>
    rw [overrideWeights]
    simp [eq_comm]
  | cons e entries ih =>
    obtain ⟨key, v⟩ := e
    constructor
    · intro h
      cases key with
      | text s =>
        rw [overrideWeights] at h
        cases ha : ofWord? (α := α) s with
        | none => simp [ha] at h
        | some a =>
          simp only [ha] at h
          obtain ⟨x, hx, hrest⟩ := bind_eq_ok_iff.mp h
          obtain ⟨given, hgiven, rfl⟩ := ih.mp hrest
          refine ⟨(a, x) :: given, .cons ⟨?_, weight_eq_ok_iff.mp hx⟩ hgiven,
            (getD_lookup_reverse_cons ..).symm⟩
          rw [(ofWord?_eq_some_iff hα).mp ha]
      | _ => simp [overrideWeights] at h
    · rintro ⟨given, hgiven, rfl⟩
      cases hgiven with
      | @cons _ g _ given hhead hgiven =>
        obtain ⟨a, x⟩ := g
        obtain ⟨rfl, hx⟩ := hhead
        rw [overrideWeights]
        simp only [hα a]
        refine bind_eq_ok_iff.mpr ⟨x, weight_eq_ok_iff.mpr hx, ih.mpr ⟨given, hgiven, ?_⟩⟩
        exact getD_lookup_reverse_cons given base a x

theorem weightTable_eq_ok_iff (hα : IsSpelled α) {place : String} {v : Option Value}
    {base f : α → Number} :
    weightTable place v base = .ok f ↔ IsSetting (MeansTable base) v base f := by
  unfold weightTable IsSetting
  cases v with
  | none => simp [eq_comm]
  | some v =>
    cases v with
    | table entries =>
      simp only [overrideWeights_eq_ok_iff hα, MeansTable, Value.table.injEq]
      constructor
      · rintro ⟨given, h⟩
        exact ⟨entries, given, rfl, h⟩
      · rintro ⟨_, given, rfl, h⟩
        exact ⟨given, h⟩
    | scalar a => simp [MeansTable]
    | list items => simp [MeansTable]

end Words

/-! ### Kinds of comment -/

/-- Whether a value means kinds of comment: it lists their words, of which repeated ones count
once. -/
def MeansTypes (v : Value) (types : List CommentType) : Prop :=
  ∃ given : List CommentType, given ≠ [] ∧ v = .list (given.map fun t => .text (word t)) ∧
    types = given.eraseDups

theorem readTypes_eq_ok_iff {items : List Value} {index : ℕ} {known types : List CommentType}
    (hknown : known.Nodup) :
    readTypes index known items = .ok types ↔ ∃ given : List CommentType,
      items = given.map (fun t => .text (word t)) ∧ types = (known ++ given).eraseDups := by
  induction items generalizing index known with
  | nil =>
    rw [readTypes]
    constructor
    · intro h
      exact ⟨[], rfl, by rw [List.append_nil, eraseDups_eq_self hknown, Except.ok.inj h]⟩
    · rintro ⟨given, hgiven, rfl⟩
      rw [List.map_eq_nil_iff.mp hgiven.symm, List.append_nil, eraseDups_eq_self hknown]
  | cons v items ih =>
    rw [readTypes]
    have hword : ∀ t : CommentType, v.text?.bind ofWord? = some t ↔ v = .text (word t) :=
      fun t => text?_bind_ofWord?_eq_some_iff isSpelled_commentType
    -- What is known with one kind more is the known kinds and it, each of them once.
    have hmeet : ∀ t : CommentType,
        (if t ∈ known then known else known ++ [t]) = (known ++ [t]).eraseDups := by
      intro t
      rw [eraseDups_concat, eraseDups_eq_self hknown]
    cases ht : v.text?.bind (ofWord? (α := CommentType)) with
    | none =>
      simp only [reduceCtorEq, false_iff]
      rintro ⟨given, hgiven, -⟩
      cases given with
      | nil => simp at hgiven
      | cons t given =>
        have hv := (hword t).mpr (List.cons.inj hgiven).1
        rw [ht] at hv
        exact absurd hv (by simp)
    | some t =>
      simp only [hmeet]
      rw [ih (nodup_eraseDups _)]
      simp only [eraseDups_eraseDups_append, List.append_assoc, List.singleton_append]
      have hv := (hword t).mp ht
      constructor
      · rintro ⟨given, rfl, rfl⟩
        exact ⟨t :: given, by rw [hv, List.map_cons], rfl⟩
      · rintro ⟨given, hgiven, rfl⟩
        cases given with
        | nil => simp at hgiven
        | cons u given =>
          obtain ⟨hu, hrest⟩ := List.cons.inj hgiven
          have htu := (hword u).mpr hu
          rw [ht, Option.some.injEq] at htu
          exact ⟨given, hrest, by rw [htu]⟩

/-! ### Globs -/

/-- Whether a value means globs: it lists texts that have more than the blanks around them. -/
def MeansGlobs (v : Value) (globs : List String) : Prop :=
  ∃ texts : List String, v = .list (texts.map .text) ∧ globs = texts.map Text.trimmed ∧
    "" ∉ globs

theorem readGlobs_eq_ok_iff {items : List Value} {index : ℕ} {globs : List String} :
    readGlobs index items = .ok globs ↔ ∃ texts : List String,
      items = texts.map .text ∧ globs = texts.map Text.trimmed ∧ "" ∉ globs := by
  induction items generalizing index globs with
  | nil =>
    rw [readGlobs]
    constructor
    · intro h
      obtain rfl := Except.ok.inj h
      exact ⟨[], rfl, rfl, List.not_mem_nil⟩
    · rintro ⟨texts, htexts, rfl, -⟩
      rw [List.map_eq_nil_iff.mp htexts.symm]
      rfl
  | cons v items ih =>
    rw [readGlobs]
    constructor
    · intro h
      split at h
      · simp at h
      · simp at h
      · rename_i glob hne htext
        obtain ⟨rest, hrest, rfl⟩ := exists_ok_of_map_eq_ok h
        obtain ⟨texts, rfl, hglobs, hnot⟩ := ih.mp hrest
        obtain ⟨s, hs, rfl⟩ := Option.map_eq_some_iff.mp htext
        refine ⟨s :: texts, ?_, ?_, ?_⟩
        · rw [text?_eq_some_iff.mp hs, List.map_cons]
        · rw [hglobs, List.map_cons]
        · rw [List.mem_cons, not_or]
          exact ⟨fun hempty => hne hempty.symm, hnot⟩
    · rintro ⟨texts, htexts, rfl, hnot⟩
      cases texts with
      | nil => simp at htexts
      | cons s texts =>
        obtain ⟨rfl, rfl⟩ := List.cons.inj htexts
        rw [List.map_cons, List.mem_cons, not_or] at hnot
        have htext : (Value.text s).text?.map Text.trimmed = some (Text.trimmed s) := rfl
        have hrest : readGlobs (index + 1) (texts.map .text) = .ok (texts.map Text.trimmed) :=
          ih.mpr ⟨texts, rfl, rfl, hnot.2⟩
        rw [htext, hrest]
        split
        · rename_i hnone
          exact absurd hnone (by simp)
        · rename_i hempty
          exact absurd (Option.some.inj hempty).symm hnot.1
        · rename_i glob _ hglob
          rw [← Option.some.inj hglob]
          rfl

end Triage
