import Triage.Proofs.Supplement.Judging

/-!
# The history of a duplicate index

An index is given findings and asked for others in any order. Two ways of keeping what was given
answer alike if what they keep stays related (`answersOf_eq_of_simulates`). So the index answers as
the plain list of what was added so far, and it would do so if it kept no places; as nothing else
knows the side of a finding, no side changes an answer (`answers_history`).
-/

namespace Triage

/-- A call of an index: a finding is added, or asked for. -/
inductive IndexCall
  | add (f : Finding)
  | ask (f : Finding)
  deriving DecidableEq, Repr

namespace IndexCall

/-- The finding that a call adds. -/
def added? : IndexCall → Option Finding
  | add f => some f
  | ask _ => none

/-- The finding that a call asks for. -/
def asked? : IndexCall → Option Finding
  | add _ => none
  | ask f => some f

/-- The same call for a finding on some side. -/
def onSide (side : Side) : IndexCall → IndexCall
  | add f => add { f with side := side }
  | ask f => ask { f with side := side }

/-- Whether two calls are of one kind, for findings that are related. -/
inductive Relates (S : Finding → Finding → Prop) : IndexCall → IndexCall → Prop
  | add {f g : Finding} (related : S f g) : Relates S (add f) (add g)
  | ask {f g : Finding} (related : S f g) : Relates S (ask f) (ask g)

theorem relates_refl (call : IndexCall) : Relates Eq call call := by
  cases call with
  | add f => exact .add rfl
  | ask f => exact .ask rfl

end IndexCall

/-- The answers to calls, given how a finding is kept and how one is answered for. An addition is
not answered. -/
def answersOf {σ : Type} (keep : σ → Finding → σ) (answer : σ → Finding → Bool) (s : σ) :
    List IndexCall → List (Option Bool)
  | [] => []
  | .add f :: rest => none :: answersOf keep answer (keep s f) rest
  | .ask f :: rest => some (answer s f) :: answersOf keep answer s rest

namespace DuplicateIndex

/-- The index without the places of findings. -/
def withoutPlaces (d : DuplicateIndex) : DuplicateIndex :=
  { d with placed := [] }

/-- The answers of an index that starts with nothing. -/
def answers (calls : List IndexCall) : List (Option Bool) :=
  answersOf add isDuplicate .empty calls

/-- The answers of an index that keeps no places. -/
def answersWithoutPlaces (calls : List IndexCall) : List (Option Bool) :=
  answersOf (fun d f => (d.add f).withoutPlaces) isDuplicate .empty calls

end DuplicateIndex

/-! ### Simulation -/

section Simulation

variable {σ τ : Type} {keep : σ → Finding → σ} {keep' : τ → Finding → τ}
  {answer : σ → Finding → Bool} {answer' : τ → Finding → Bool}
  {R : σ → τ → Prop} {S : Finding → Finding → Prop}

/-- What stays related under every addition, and answers alike while it is, answers all calls
alike. -/
theorem answersOf_eq_of_simulates
    (hkeep : ∀ s t f g, R s t → S f g → R (keep s f) (keep' t g))
    (hanswer : ∀ s t f g, R s t → S f g → answer s f = answer' t g) {s : σ} {t : τ} (h : R s t)
    {calls calls' : List IndexCall} (hcalls : List.Forall₂ (IndexCall.Relates S) calls calls') :
    answersOf keep answer s calls = answersOf keep' answer' t calls' := by
  induction hcalls generalizing s t with
  | nil => rfl
  | cons hcall _ ih =>
    cases hcall with
    | add related => rw [answersOf, answersOf, ih (hkeep s t _ _ h related)]
    | ask related => rw [answersOf, answersOf, ih h, hanswer s t _ _ h related]

theorem forall₂_relates_refl (calls : List IndexCall) :
    List.Forall₂ (IndexCall.Relates Eq) calls calls :=
  List.forall₂_same.mpr fun call _ => call.relates_refl

end Simulation

/-! ### The list of what was added -/

instance (f g : Finding) : Decidable (f.Echoes g) :=
  decidable_of_iff _ Finding.echoes_iff.symm

/-- Whether a finding echoes one of those that were said. -/
def echoesAny (said : List Finding) (f : Finding) : Bool :=
  decide (∃ g ∈ said, f.Echoes g)

/-- The list of what was said hears at each call what was added before it. -/
theorem getElem?_answersOf_echoesAny (said : List Finding) (calls : List IndexCall) (i : ℕ) :
    (answersOf (fun said f => said ++ [f]) echoesAny said calls)[i]? =
      calls[i]?.map fun call =>
        call.asked?.map (echoesAny (said ++ (calls.take i).filterMap IndexCall.added?)) := by
  induction calls generalizing said i with
  | nil => rfl
  | cons call rest ih =>
    cases i with
    | zero =>
      cases call with
      | add f => rfl
      | ask f => simp [answersOf, IndexCall.asked?]
    | succ i =>
      cases call with
      | add f => simp [answersOf, ih, IndexCall.added?]
      | ask f => simp [answersOf, ih, List.filterMap_cons, IndexCall.added?]

namespace DuplicateIndex

variable {d : DuplicateIndex} {said : List Finding}

theorem Knows.isDuplicate_eq (h : d.Knows said) (f : Finding) :
    d.isDuplicate f = echoesAny said f := by
  rw [Bool.eq_iff_iff, h.isDuplicate_iff, echoesAny, decide_eq_true_iff]

/-- An index answers as the list of what was added. -/
theorem answers_eq (calls : List IndexCall) :
    answers calls = answersOf (fun said f => said ++ [f]) echoesAny [] calls := by
  refine answersOf_eq_of_simulates (R := Knows) ?_ ?_ knows_empty (forall₂_relates_refl calls)
  · rintro d said f _ h rfl
    exact h.add f
  · rintro d said f _ h rfl
    exact h.isDuplicate_eq f

/-! ### Places and sides -/

/-- What an index knows by place it knows by topic and line as well. -/
theorem Knows.isDuplicate_withoutPlaces (h : d.Knows said) (f : Finding) :
    d.withoutPlaces.isDuplicate f = d.isDuplicate f := by
  have hlines : d.withoutPlaces.isDuplicate f =
      (d.linesOn f.topicKey).any fun n => lineDistance n f.line ≤ nearbyLines := by
    simp [isDuplicate, withoutPlaces, linesOn]
  rw [hlines, Bool.eq_iff_iff, h.isDuplicate_iff, List.any_eq_true]
  simp only [h.lines, decide_eq_true_iff, Finding.echoes_iff]
  constructor
  · rintro ⟨n, ⟨g, hg, htopic, rfl⟩, hnear⟩
    exact ⟨g, hg, htopic, hnear⟩
  · rintro ⟨g, hg, htopic, hnear⟩
    exact ⟨g.line, ⟨g, hg, htopic, rfl⟩, hnear⟩

theorem answersWithoutPlaces_eq (calls : List IndexCall) :
    answersWithoutPlaces calls = answers calls := by
  let R : DuplicateIndex → DuplicateIndex → Prop :=
    fun bare d => bare = d.withoutPlaces ∧ ∃ said, d.Knows said
  refine answersOf_eq_of_simulates (R := R) ?_ ?_ ⟨rfl, [], knows_empty⟩
    (forall₂_relates_refl calls)
  · rintro _ d f _ ⟨rfl, said, h⟩ rfl
    exact ⟨rfl, _, h.add f⟩
  · rintro _ d f _ ⟨rfl, said, h⟩ rfl
    exact h.isDuplicate_withoutPlaces f

/-- Calls for findings on the same topics and lines have the same answers: without places, nothing
else of a finding is looked at. -/
theorem answers_eq_of_sameTopics {calls calls' : List IndexCall}
    (h : List.Forall₂ (IndexCall.Relates fun f g => f.topicKey = g.topicKey ∧ f.line = g.line)
      calls calls') : answers calls = answers calls' := by
  rw [← answersWithoutPlaces_eq, ← answersWithoutPlaces_eq]
  refine answersOf_eq_of_simulates (R := fun d d' => d.placed = [] ∧ d' = d) ?_ ?_ ⟨rfl, rfl⟩ h
  · rintro d _ f g ⟨-, rfl⟩ ⟨htopic, hline⟩
    refine ⟨rfl, ?_⟩
    simp only [add, withoutPlaces, htopic, hline]
  · rintro d _ f g ⟨hplaced, rfl⟩ ⟨htopic, hline⟩
    simp [isDuplicate, hplaced, htopic, hline]

end DuplicateIndex

theorem forall₂_relates_onSide (calls : List IndexCall) (sides : ℕ → Side) :
    List.Forall₂ (IndexCall.Relates fun f g => f.topicKey = g.topicKey ∧ f.line = g.line)
      (calls.mapIdx fun i call => call.onSide (sides i)) calls := by
  induction calls generalizing sides with
  | nil => exact List.Forall₂.nil
  | cons call rest ih =>
    rw [List.mapIdx_cons]
    refine List.Forall₂.cons ?_ (ih fun i => sides (i + 1))
    cases call with
    | add f => exact .add ⟨rfl, rfl⟩
    | ask f => exact .ask ⟨rfl, rfl⟩

/-- At every call for a finding, an index answers whether one that was added before is of the same
path, category and title and at most eight lines away. It answers so without any places, and
whatever the sides of the findings. -/
theorem answers_history (calls : List IndexCall) :
    (∀ i : ℕ, (DuplicateIndex.answers calls)[i]? = calls[i]?.map fun call =>
      call.asked?.map fun f =>
        decide (∃ g ∈ (calls.take i).filterMap IndexCall.added?, f.Echoes g)) ∧
    DuplicateIndex.answersWithoutPlaces calls = DuplicateIndex.answers calls ∧
    ∀ sides : ℕ → Side,
      DuplicateIndex.answers (calls.mapIdx fun i call => call.onSide (sides i)) =
        DuplicateIndex.answers calls := by
  refine ⟨?_, DuplicateIndex.answersWithoutPlaces_eq calls, ?_⟩
  · intro i
    rw [DuplicateIndex.answers_eq, getElem?_answersOf_echoesAny, List.nil_append]
    rfl
  · intro sides
    exact DuplicateIndex.answers_eq_of_sameTopics (forall₂_relates_onSide calls sides)

end Triage
