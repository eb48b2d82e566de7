/-!
# Positional notation

Numbers by their digits in a base, the highest digit first.
-/

namespace Triage

/-- The number that digits write in a base, the first one leading. -/
def ofDigits (base : Nat) (digits : List Nat) : Nat :=
  digits.foldl (fun n d => n * base + d) 0

/-- The last digits of a number in a base, in order; they are zeros where the number is shorter. -/
def lastDigits (base : Nat) : Nat → Nat → List Nat
  | 0, _ => []
  | width + 1, n => lastDigits base width (n / base) ++ [n % base]

@[simp]
theorem length_lastDigits (base width n : Nat) : (lastDigits base width n).length = width := by
  induction width generalizing n with
  | zero => rfl
  | succ width ih => rw [lastDigits, List.length_append, ih, List.length_singleton]

theorem lt_of_mem_lastDigits {base width n d : Nat} (hbase : 0 < base)
    (h : d ∈ lastDigits base width n) : d < base := by
  induction width generalizing n with
  | zero => exact absurd h List.not_mem_nil
  | succ width ih =>
    rw [lastDigits, List.mem_append, List.mem_singleton] at h
    rcases h with h | rfl
    · exact ih h
    · exact Nat.mod_lt n hbase

end Triage
