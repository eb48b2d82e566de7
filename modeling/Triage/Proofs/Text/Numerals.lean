import Triage.Proofs.Diff.Rows
import Triage.Text.Numeral

/-!
# Integers read from digits

Digits of ASCII are read as the number that they write, whatever zeros they begin with, as long as
there are not too many of them (`readInteger_of_isDigit`, `readInteger_padded`).
-/

namespace Triage.Text

open Diff

variable {c : Char} {cs : List Char}

theorem exists_digitChar_of_isDigit (h : c.isDigit = true) : ∃ d < 10, c = Nat.digitChar d := by
  rw [Char.isDigit_iff_toNat, show '0'.toNat = 48 from rfl, show '9'.toNat = 57 from rfl] at h
  refine ⟨c.toNat - 48, by omega, ?_⟩
  rw [← Char.toNat_inj, Nat.toNat_digitChar_of_lt_ten (by omega)]
  omega

/-- What the ten digits have in common, all digits have. -/
theorem of_isDigit {P : Char → Prop} (hten : ∀ d < 10, P (Nat.digitChar d)) (h : c.isDigit = true) :
    P c := by
  obtain ⟨d, hd, rfl⟩ := exists_digitChar_of_isDigit h
  exact hten d hd

theorem digitIn?_of_isDigit (h : c.isDigit = true) :
    digitIn? 10 c = some (c.toNat - '0'.toNat) :=
  of_isDigit (P := fun c => digitIn? 10 c = some (c.toNat - '0'.toNat)) (by decide) h

theorem groupedDigits?_of_isDigit (h : ∀ c ∈ cs, c.isDigit = true) (hne : cs ≠ []) :
    groupedDigits? 10 cs = some (cs.map fun c => c.toNat - '0'.toNat) := by
  fun_induction groupedDigits? 10 cs with
  | case1 => exact absurd rfl hne
  | case2 c => rw [digitIn?_of_isDigit (h c (List.mem_singleton_self c))]; rfl
  | case3 c rest ih => exact absurd (h '_' (by simp)) (by decide)
  | case4 c rest hmore hunderscore ih =>
    obtain ⟨hc, hrest⟩ := List.forall_mem_cons.mp h
    rw [digitIn?_of_isDigit hc, ih hrest hmore]
    rfl

/-- No mark of a base stands in front of a number of base ten. -/
theorem dropBaseMark_ten (cs : List Char) : dropBaseMark 10 cs = cs := by
  unfold dropBaseMark
  split
  all_goals simp_all

theorem readInteger_of_isDigit (h : ∀ c ∈ cs, c.isDigit = true) (hne : cs ≠ []) :
    readInteger 10 cs =
      if maxIntegerDigits < cs.length then .error (.tooLong cs.length)
      else .ok (ofDigits 10 (cs.map fun c => c.toNat - '0'.toNat)) := by
  have hisDigit : ∀ c ∈ cs, (decide (c = '_') || (digitIn? 10 c).isSome) = true := by
    intro c hc
    rw [digitIn?_of_isDigit (h c hc)]
    simp
  have hmargin : cs.dropWhile isMargin = cs := by
    obtain ⟨c, rest, rfl⟩ := List.exists_cons_of_ne_nil hne
    have hc : isMargin c = false :=
      of_isDigit (P := fun c => isMargin c = false) (by decide) (h c (List.mem_cons_self ..))
    rw [List.dropWhile_cons_of_neg (by simp [hc])]
  have hsign : splitSign cs = (false, cs) := by
    unfold splitSign
    split
    · exact absurd (h '-' (List.mem_cons_self ..)) (by decide)
    · exact absurd (h '+' (List.mem_cons_self ..)) (by decide)
    · rfl
  unfold readInteger
  simp only [hmargin, hsign, dropBaseMark_ten]
  have htake : cs.takeWhile (fun c => decide (c = '_') || (digitIn? 10 c).isSome) = cs :=
    List.takeWhile_eq_self_iff.mpr hisDigit
  have hdrop : cs.dropWhile (fun c => decide (c = '_') || (digitIn? 10 c).isSome) = [] :=
    List.dropWhile_eq_nil_iff.mpr hisDigit
  rw [htake, hdrop, groupedDigits?_of_isDigit h hne]
  simp

/-- Zeros in front make no difference. -/
theorem ofDigits_zeros_append (base zeros : ℕ) (digits : List ℕ) :
    ofDigits base (List.replicate zeros 0 ++ digits) = ofDigits base digits := by
  induction zeros with
  | zero => rfl
  | succ zeros ih =>
    unfold ofDigits at ih ⊢
    rw [List.replicate_succ, List.cons_append, List.foldl_cons, Nat.zero_mul, Nat.zero_add, ih]

/-- A number is read behind zeros, up to the limit to the digits. -/
theorem readInteger_padded (zeros n : ℕ) :
    (readInteger 10 (List.replicate zeros '0' ++ Nat.toDigits 10 n)).toOption =
      if zeros + (Nat.toDigits 10 n).length ≤ maxIntegerDigits then some (n : ℤ) else none := by
  have hdigits : ∀ c ∈ List.replicate zeros '0' ++ Nat.toDigits 10 n, c.isDigit = true := by
    intro c hc
    rcases List.mem_append.mp hc with hc | hc
    · rw [List.eq_of_mem_replicate hc]
      decide
    · exact isDigit_of_mem_toDigits hc
  have hne : List.replicate zeros '0' ++ Nat.toDigits 10 n ≠ [] :=
    List.append_ne_nil_of_right_ne_nil _ Nat.toDigits_ne_nil
  have hvalue : ofDigits 10 ((List.replicate zeros '0' ++ Nat.toDigits 10 n).map
      fun c => c.toNat - '0'.toNat) = n := by
    rw [List.map_append, List.map_replicate, Nat.sub_self, ofDigits_zeros_append]
    exact Numeral.value_ofNat n
  rw [readInteger_of_isDigit hdigits hne, hvalue, List.length_append, List.length_replicate]
  split_ifs with hlong hshort
  · omega
  · rfl
  · rfl
  · omega

end Triage.Text
