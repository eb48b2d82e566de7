import Mathlib.Data.Int.Notation
import Mathlib.Data.Nat.Notation
import Mathlib.Data.List.Basic
import Triage.Json.Printer
import Triage.Json.Reader

/-!
# Numbers in JSON

A number is its digits, then a fraction and an exponent if there are any (`readMagnitude_append`).
An integer that is short enough is read as it was written, up to a character that no number has
(`readScalar_int`).
-/

namespace Triage.Json

/-! ### Digits -/

/-- Whether characters are digits, and at least one. -/
structure IsRun (cs : List Char) : Prop where
  digits : ∀ c ∈ cs, c.isDigit = true
  nonempty : cs ≠ []

/-- Whether digits may be the whole part of a number: they begin with a zero only if they are
one. -/
structure IsWhole (cs : List Char) : Prop extends IsRun cs where
  zero : cs.head? = some '0' → cs = ['0']

theorem isRun_toDigits (n : ℕ) : IsRun (Nat.toDigits 10 n) where
  digits := fun _ => Nat.isDigit_of_mem_toDigits (by decide) (by decide)
  nonempty := Nat.toDigits_ne_nil

/-- Only zero is written with a zero in front. -/
theorem head?_toDigits_ne {n : ℕ} (h : 0 < n) : (Nat.toDigits 10 n).head? ≠ some '0' := by
  induction n using Nat.strongRecOn with
  | ind n ih =>
    rw [Nat.toDigits_eq_if (by decide)]
    split_ifs with hsmall
    · have hall : ∀ d < 10, 0 < d → [Nat.digitChar d].head? ≠ some '0' := by decide
      exact hall n hsmall h
    · rw [List.head?_append_of_ne_nil _ Nat.toDigits_ne_nil]
      exact ih (n / 10) (by omega) (by omega)

theorem isWhole_toDigits (n : ℕ) : IsWhole (Nat.toDigits 10 n) where
  toIsRun := isRun_toDigits n
  zero := by
    intro hzero
    rcases Nat.eq_zero_or_pos n with rfl | hpos
    · exact Nat.toDigits_zero 10
    · exact absurd hzero (head?_toDigits_ne hpos)

theorem decimalValue_toDigits (n : ℕ) : decimalValue (Nat.toDigits 10 n) = n := by
  have hfold := Nat.ofDigitChars_ten_toDigits (n := n)
  rw [Nat.ofDigitChars_eq_foldl] at hfold
  unfold decimalValue
  simpa [Nat.mul_comm] using hfold

theorem length_toDigits_le (n : ℕ) {k : ℕ} (hk : 0 < k) :
    (Nat.toDigits 10 n).length ≤ k ↔ n < Nat.pow 10 k :=
  Nat.length_toDigits_le_iff (by decide) hk

/-! ### What follows a number -/

/-- Whether no number goes on in a text. -/
def EndsNumber (rest : List Char) : Prop :=
  ∀ c ∈ rest.head?, c.isDigit = false ∧ c ≠ '.' ∧ c ≠ 'e' ∧ c ≠ 'E'

variable {run digits rest : List Char}

theorem takeWhile_run (h : ∀ c ∈ run, c.isDigit = true)
    (hrest : ∀ c ∈ rest.head?, c.isDigit = false) :
    (run ++ rest).takeWhile Char.isDigit = run ∧ (run ++ rest).dropWhile Char.isDigit = rest := by
  rw [List.takeWhile_append_of_pos h, List.dropWhile_append_of_pos h]
  cases rest with
  | nil => simp
  | cons c rest =>
    have hc := hrest c rfl
    simp [hc]

theorem readFraction_of_endsNumber (h : EndsNumber rest) : readFraction rest = ([], rest) := by
  cases rest with
  | nil => rfl
  | cons c rest =>
    rw [readFraction]
    intro more heq
    exact (h c rfl).2.1 (List.cons.inj heq).1

theorem readExponent_of_endsNumber (h : EndsNumber rest) : readExponent rest = (none, rest) := by
  cases rest with
  | nil => rfl
  | cons c rest =>
    obtain ⟨-, -, hlower, hupper⟩ := h c rfl
    have hnot : ¬(c = 'e' ∨ c = 'E') := not_or.mpr ⟨hlower, hupper⟩
    unfold readExponent
    simp only [if_neg hnot]

theorem readFraction_point (hdigits : IsRun digits)
    (hrest : ∀ c ∈ rest.head?, c.isDigit = false) :
    readFraction ('.' :: (digits ++ rest)) = (digits, rest) := by
  obtain ⟨htake, hdrop⟩ := takeWhile_run hdigits.digits hrest
  rw [readFraction, htake, hdrop, if_neg]
  rw [List.isEmpty_iff]
  exact hdigits.nonempty

theorem exists_readExponent {mark : Char} (hmark : mark = '-' ∨ mark = '+')
    (hdigits : IsRun digits) :
    ∃ n, ∀ rest, EndsNumber rest →
      readExponent ('e' :: mark :: (digits ++ rest)) = (some n, rest) := by
  have hne : digits.isEmpty = false := by
    rw [List.isEmpty_eq_false_iff]
    exact hdigits.nonempty
  rcases hmark with rfl | rfl
  · refine ⟨-(decimalValue digits : ℤ), fun rest hrest => ?_⟩
    obtain ⟨htake, hdrop⟩ := takeWhile_run hdigits.digits fun c hc => (hrest c hc).1
    simp [readExponent, htake, hdrop, hne]
  · refine ⟨(decimalValue digits : ℤ), fun rest hrest => ?_⟩
    obtain ⟨htake, hdrop⟩ := takeWhile_run hdigits.digits fun c hc => (hrest c hc).1
    simp [readExponent, htake, hdrop, hne]

/-! ### Magnitudes -/

/-- The double with a whole part, a fraction and an exponent. -/
def realOf (isNegative : Bool) (run fraction : List Char) (exponent : ℤ) : Double :=
  let x := Double.ofDecimal (decimalValue (run ++ fraction)) (exponent - fraction.length)
  if isNegative then x.neg else x

theorem readMagnitude_append (isNegative : Bool) (hrun : IsWhole run)
    (hrest : ∀ c ∈ rest.head?, c.isDigit = false) {fraction middle : List Char}
    {exponent : Option ℤ} {after : List Char} (hfraction : readFraction rest = (fraction, middle))
    (hexponent : readExponent middle = (exponent, after)) :
    readMagnitude isNegative (run ++ rest) =
      if fraction.isEmpty ∧ exponent.isNone then
        (integerOf isNegative run).map fun s => (s, after)
      else .ok (.real (realOf isNegative run fraction (exponent.getD 0)), after) := by
  obtain ⟨htake, -⟩ := takeWhile_run hrun.digits hrest
  have hwhole : (if run.head? = some '0' then ['0'] else run) = run := by
    split_ifs with hzero
    · exact (hrun.zero hzero).symm
    · rfl
  have hne : ¬ run.isEmpty = true := by
    rw [List.isEmpty_iff]
    exact hrun.nonempty
  unfold readMagnitude
  simp only [htake, hwhole, if_neg hne, List.drop_left, hfraction, hexponent, realOf]

/-! ### Scalars that are numbers -/

theorem afterWord?_of_ne {c w : Char} {word : String} {ws : List Char}
    (hword : word.toList = w :: ws) (h : c ≠ w) (cs : List Char) :
    afterWord? word (c :: cs) = none := by
  unfold afterWord?
  rw [hword, List.isPrefixOf]
  simp [Ne.symm h]

theorem findSome?_scalarWords {cs : List Char}
    (h : ∀ p ∈ scalarWords, afterWord? p.1 cs = none) :
    scalarWords.findSome? (fun (word, s) => (afterWord? word cs).map fun rest => (s, rest)) =
      none := by
  rw [List.findSome?_eq_none_iff]
  intro p hp
  rw [Option.map_eq_none_iff]
  exact h p hp

/-- What begins with a digit, maybe behind a sign, is no word. -/
theorem readScalar_of_isDigit {c : Char} (hc : c.isDigit = true) (cs : List Char) :
    readScalar (c :: cs) = readMagnitude false (c :: cs) ∧
      readScalar ('-' :: c :: cs) = readMagnitude true (c :: cs) := by
  have hne : ∀ d : Char, d.isDigit = false → c ≠ d := by
    rintro d hd rfl
    rw [hc] at hd
    exact absurd hd (by decide)
  have hminus : c ≠ '-' := hne '-' (by decide)
  have hword : ∀ p ∈ scalarWords, afterWord? p.1 (c :: cs) = none := by
    intro p hp
    simp only [scalarWords, List.mem_cons, List.not_mem_nil, or_false] at hp
    rcases hp with rfl | rfl | rfl | rfl | rfl | rfl
    · exact afterWord?_of_ne rfl (hne 'n' (by decide)) cs
    · exact afterWord?_of_ne rfl (hne 't' (by decide)) cs
    · exact afterWord?_of_ne rfl (hne 'f' (by decide)) cs
    · exact afterWord?_of_ne rfl (hne 'N' (by decide)) cs
    · exact afterWord?_of_ne rfl (hne 'I' (by decide)) cs
    · exact afterWord?_of_ne rfl hminus cs
  have hnegative : ∀ p ∈ scalarWords, afterWord? p.1 ('-' :: c :: cs) = none := by
    intro p hp
    simp only [scalarWords, List.mem_cons, List.not_mem_nil, or_false] at hp
    rcases hp with rfl | rfl | rfl | rfl | rfl | rfl
    · exact afterWord?_of_ne rfl (by decide) _
    · exact afterWord?_of_ne rfl (by decide) _
    · exact afterWord?_of_ne rfl (by decide) _
    · exact afterWord?_of_ne rfl (by decide) _
    · exact afterWord?_of_ne rfl (by decide) _
    · -- Behind the sign comes a digit, and not the word for what is infinite.
      have hinfinite : "-Infinity".toList = '-' :: 'I' :: "nfinity".toList := rfl
      unfold afterWord?
      rw [hinfinite]
      simp [List.isPrefixOf, (hne 'I' (by decide)).symm]
  constructor
  · unfold readScalar
    simp only [findSome?_scalarWords hword]
    split
    · rename_i heq
      exact absurd (List.cons.inj heq).1 hminus
    · rfl
  · unfold readScalar
    simp only [findSome?_scalarWords hnegative]

theorem readScalar_append (hrun : IsRun run) (cs : List Char) :
    readScalar (run ++ cs) = readMagnitude false (run ++ cs) ∧
      readScalar ('-' :: (run ++ cs)) = readMagnitude true (run ++ cs) := by
  cases run with
  | nil => exact absurd rfl hrun.nonempty
  | cons c run => exact readScalar_of_isDigit (hrun.digits c (List.mem_cons_self ..)) (run ++ cs)

/-- Whether a text begins as the texts of scalars without quotes do. -/
def StartsScalar (cs : List Char) : Prop :=
  ∃ c rest, cs = c :: rest ∧ (c.isDigit = true ∨ c ∈ ['-', 'n', 't', 'f', 'N', 'I'])

theorem IsRun.startsScalar (h : IsRun run) (cs : List Char) : StartsScalar (run ++ cs) := by
  cases run with
  | nil => exact absurd rfl h.nonempty
  | cons c run => exact ⟨c, run ++ cs, rfl, Or.inl (h.digits c (List.mem_cons_self ..))⟩

theorem readMagnitude_toDigits {n : ℕ} (hn : (Nat.toDigits 10 n).length ≤ maxIntegerDigits)
    (isNegative : Bool) (hrest : EndsNumber rest) :
    readMagnitude isNegative (Nat.toDigits 10 n ++ rest) =
      .ok (.int (if isNegative then -n else n), rest) := by
  rw [readMagnitude_append isNegative (isWhole_toDigits n) (fun c hc => (hrest c hc).1)
    (readFraction_of_endsNumber hrest) (readExponent_of_endsNumber hrest)]
  rw [if_pos ⟨rfl, rfl⟩, integerOf, if_neg (by omega), decimalValue_toDigits]
  rfl

/-- An integer that may be written is read back, whatever follows. -/
theorem readScalar_int {n : ℤ} (hn : isWritable n = true) :
    StartsScalar (scalar (.int n)).toList ∧ ∀ rest, EndsNumber rest →
      readScalar ((scalar (.int n)).toList ++ rest) = .ok (.int n, rest) := by
  have hlength : (Nat.toDigits 10 n.natAbs).length ≤ maxIntegerDigits := by
    rw [length_toDigits_le n.natAbs (by decide)]
    exact of_decide_eq_true hn
  have htext : scalar (.int n) = n.repr := rfl
  rw [htext]
  cases n with
  | ofNat m =>
    have hdigits : (Int.repr (Int.ofNat m)).toList = Nat.toDigits 10 m := Nat.toList_repr
    have hstarts := (isRun_toDigits m).startsScalar []
    rw [List.append_nil] at hstarts
    rw [hdigits]
    refine ⟨hstarts, fun rest hrest => ?_⟩
    rw [(readScalar_append (isRun_toDigits m) rest).1]
    exact readMagnitude_toDigits hlength false hrest
  | negSucc m =>
    have hdigits : (Int.repr (Int.negSucc m)).toList = '-' :: Nat.toDigits 10 (m + 1) := by
      rw [Int.repr, String.toList_append, Nat.toList_repr]
      rfl
    rw [hdigits]
    refine ⟨⟨'-', _, rfl, by decide⟩, fun rest hrest => ?_⟩
    rw [List.cons_append, (readScalar_append (isRun_toDigits (m + 1)) rest).2]
    exact readMagnitude_toDigits hlength true hrest

end Triage.Json
