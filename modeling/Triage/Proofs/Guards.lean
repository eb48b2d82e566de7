import Mathlib.Tactic.SplitIfs

/-!
# Steps that may fail

A sequence of steps in `Except` succeeds iff each of them does in turn (`bind_eq_ok_iff`), and fails
with an error iff one of them does after the others succeeded (`bind_eq_error_iff`). A check fails
iff what it asks for is not the case.
-/

namespace Triage

universe u v

variable {ε δ : Type u} {α β : Type v}

@[simp]
theorem bind_eq_ok_iff {x : Except ε α} {f : α → Except ε β} {b : β} :
    (x >>= f) = .ok b ↔ ∃ a, x = .ok a ∧ f a = .ok b := by
  cases x with
  | error e => simp [bind, Except.bind]
  | ok a => simp [bind, Except.bind]

@[simp]
theorem bind_eq_error_iff {x : Except ε α} {f : α → Except ε β} {e : ε} :
    (x >>= f) = .error e ↔ x = .error e ∨ ∃ a, x = .ok a ∧ f a = .error e := by
  cases x with
  | error e' => simp [bind, Except.bind]
  | ok a => simp [bind, Except.bind]

@[simp]
theorem throw_ne_ok {e : ε} {a : α} : (throw e : Except ε α) ≠ .ok a := by
  simp [throw, throwThe, MonadExceptOf.throw]

@[simp]
theorem throw_eq_error_iff {e e' : ε} : (throw e : Except ε α) = .error e' ↔ e = e' := by
  simp [throw, throwThe, MonadExceptOf.throw]

@[simp]
theorem pure_eq_ok_iff {a b : α} : (pure a : Except ε α) = .ok b ↔ a = b := by
  simp [pure, Except.pure]

@[simp]
theorem pure_ne_error {a : α} {e : ε} : (pure a : Except ε α) ≠ .error e := by
  simp [pure, Except.pure]

theorem throw_bind {e : ε} {f : α → Except ε β} : (throw e >>= f) = throw e := rfl

/-- A check passes iff what it asks for is the case. -/
@[simp]
theorem ite_throw_eq_ok_iff {c : Prop} [Decidable c] {x : Except ε α} {e : ε}
    {f : PUnit → Except ε α} {a : α} :
    (if c then x else throw e >>= f) = .ok a ↔ c ∧ x = .ok a := by
  split_ifs with h
  · simp [h]
  · simp [h, throw_bind]

theorem map_eq_error_iff {x : Except ε α} {f : α → β} {e : ε} :
    x.map f = .error e ↔ x = .error e := by
  cases x with
  | error e' => simp [Except.map]
  | ok a => simp [Except.map]

@[simp]
theorem mapError_eq_ok_iff {x : Except ε α} {g : ε → δ} {a : α} :
    x.mapError g = .ok a ↔ x = .ok a := by
  cases x with
  | error e => simp [Except.mapError]
  | ok b => simp [Except.mapError]

@[simp]
theorem mapError_eq_error_iff {x : Except ε α} {g : ε → δ} {d : δ} :
    x.mapError g = .error d ↔ ∃ e, x = .error e ∧ g e = d := by
  cases x with
  | error e => simp [Except.mapError]
  | ok b => simp [Except.mapError]

/-! ### Errors of one kind -/

/-- Whether a step fails with an error of some kind. -/
def FailsWith (p : ε → Prop) (x : Except ε α) : Prop :=
  ∃ e, x = .error e ∧ p e

variable {p : ε → Prop}

@[simp]
theorem not_failsWith_ok {a : α} : ¬ FailsWith p (.ok a : Except ε α) := by
  simp [FailsWith]

@[simp]
theorem not_failsWith_pure {a : α} : ¬ FailsWith p (pure a : Except ε α) := by
  simp [FailsWith]

@[simp]
theorem failsWith_error_iff {e : ε} : FailsWith p (.error e : Except ε α) ↔ p e := by
  simp [FailsWith]

@[simp]
theorem failsWith_throw_iff {e : ε} : FailsWith p (throw e : Except ε α) ↔ p e := by
  simp [FailsWith]

/-- The first step that fails decides. -/
theorem failsWith_bind_iff {x : Except ε α} {f : α → Except ε β} :
    FailsWith p (x >>= f) ↔ FailsWith p x ∨ ∃ a, x = .ok a ∧ FailsWith p (f a) := by
  cases x with
  | error e => simp [FailsWith, bind, Except.bind]
  | ok a => simp [FailsWith, bind, Except.bind]

theorem failsWith_map_iff {x : Except ε α} {f : α → β} :
    FailsWith p (x.map f) ↔ FailsWith p x := by
  cases x with
  | error e => simp [Except.map]
  | ok a => simp [Except.map]

@[simp]
theorem failsWith_fmap_iff {x : Except ε α} {f : α → β} :
    FailsWith p (f <$> x) ↔ FailsWith p x :=
  failsWith_map_iff

theorem failsWith_mapError_iff {x : Except ε α} {g : ε → δ} {q : δ → Prop} :
    FailsWith q (x.mapError g) ↔ FailsWith (fun e => q (g e)) x := by
  cases x with
  | error e => simp [Except.mapError]
  | ok a => simp [Except.mapError]

end Triage
