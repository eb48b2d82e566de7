import Triage.Json.Printer
import Triage.Json.Reader
import Triage.Proofs.Text.Codes

/-!
# Strings in JSON

A string is written as code units, each of them as itself or as an escape, and these are read and
joined again (`readString_escapeAll`). A high half in front of a low one would be joined to another
character, which is why two stand-ins side by side are written as themselves.
-/

namespace Triage.Json

open Text (half? ofUnit)

/-! ### Code units -/

theorem hexDigit?_digitChar {d : ℕ} (h : d < 16) : hexDigit? (Nat.digitChar d) = some d := by
  have hall : ∀ d < 16, hexDigit? (Nat.digitChar d) = some d := by decide
  exact hall d h

theorem hexDigits_four (n : ℕ) :
    Text.hexDigits 4 n = [Nat.digitChar (n / 4096 % 16), Nat.digitChar (n / 256 % 16),
      Nat.digitChar (n / 16 % 16), Nat.digitChar (n % 16)] := by
  simp [Text.hexDigits, lastDigits, Nat.div_div_eq_div_mul]

theorem codeUnit?_hexDigits {n : ℕ} (h : n < 0x10000) :
    codeUnit? (Nat.digitChar (n / 4096 % 16)) (Nat.digitChar (n / 256 % 16))
      (Nat.digitChar (n / 16 % 16)) (Nat.digitChar (n % 16)) = some n := by
  have hdigit : ∀ m, hexDigit? (Nat.digitChar (m % 16)) = some (m % 16) :=
    fun m => hexDigit?_digitChar (Nat.mod_lt m (by decide))
  unfold codeUnit?
  rw [hdigit, hdigit, hdigit, hdigit]
  have hvalue : ((n / 4096 % 16 * 16 + n / 256 % 16) * 16 + n / 16 % 16) * 16 + n % 16 = n := by
    omega
  exact congrArg some hvalue

theorem readUnits_unitEscape {n : ℕ} (h : n < 0x10000) (units : List ℕ) (rest : List Char) :
    readUnits units (unitEscape n ++ rest) = readUnits (n :: units) rest := by
  rw [unitEscape, hexDigits_four]
  simp only [List.cons_append, List.nil_append]
  rw [readUnits, codeUnit?_hexDigits h]

/-- The halves of the pair that a code beyond the first plane is written as. -/
def pairOf (n : ℕ) : List ℕ :=
  [0xD800 + (n - 0x10000) / 0x400, 0xDC00 + (n - 0x10000) % 0x400]

/-- The code units of a code. -/
def unitsOfCode (n : ℕ) : List ℕ :=
  if n < 0x10000 then [n] else pairOf n

theorem readUnits_numberEscape {n : ℕ} (h : n < 0x110000) (units : List ℕ) (rest : List Char) :
    readUnits units (numberEscape n ++ rest) =
      readUnits ((unitsOfCode n).reverse ++ units) rest := by
  unfold numberEscape unitsOfCode
  split_ifs with hplane
  · exact readUnits_unitEscape hplane units rest
  · rw [List.append_assoc, readUnits_unitEscape (by omega), readUnits_unitEscape (by omega)]
    rfl

/-! ### Characters -/

/-- The code units of a character: the half that it stands in for, or those of its code. -/
def unitsOf (c : Char) : List ℕ :=
  match half? c with
  | some unit => [unit]
  | none => unitsOfCode c.toNat

theorem unitsOf_of_lt {c : Char} (h : c.toNat < 0x10000) : unitsOf c = [c.toNat] := by
  have hhalf : half? c = none := by
    rw [Option.eq_none_iff_forall_ne_some]
    intro unit hunit
    have hcode := (Text.half?_eq_some_iff.mp hunit).1
    have hplane : Text.standInPlane = 0x100000 := rfl
    omega
  rw [unitsOf, hhalf]
  exact if_pos h

theorem readUnits_plain {c : Char} (hquote : c ≠ '"') (hslash : c ≠ '\\')
    (hcode : 0x20 ≤ c.toNat) (units : List ℕ) (rest : List Char) :
    readUnits units (c :: rest) = readUnits (c.toNat :: units) rest := by
  rw [readUnits, if_neg]
  · rintro (hlow | heq)
    · omega
    · exact hslash heq
  · exact fun h => hquote h
  · intro _ _ _ _ _ h
    exact absurd h hslash
  · intro _ _ h
    exact absurd h hslash

theorem readUnits_escape (c : Char) (units : List ℕ) (rest : List Char) :
    readUnits units (escape c ++ rest) = readUnits ((unitsOf c).reverse ++ units) rest := by
  have hbounds := Text.toNat_bounds c
  unfold escape
  split
  · rfl
  · rfl
  · rfl
  · rfl
  · rfl
  · rfl
  · rfl
  · rename_i hquote hslash _ _ _ _ _
    -- What is not printable is escaped, a stand-in as the half that it stands in for.
    split_ifs with hprintable
    · rw [unitsOf_of_lt (by omega)]
      exact readUnits_plain hquote hslash hprintable.1 units rest
    · cases hhalf : half? c with
      | some unit =>
        have hunit := (Text.isHalf_iff.mp (Text.half?_eq_some_iff.mp hhalf).2)
        rw [unitsOf, hhalf]
        exact readUnits_unitEscape (by omega) units rest
      | none =>
        rw [unitsOf, hhalf]
        exact readUnits_numberEscape (by omega) units rest

/-- The code units that characters are written as. -/
def unitsOfAll : List Char → List ℕ
  | [] => []
  | [c] => unitsOf c
  | c :: d :: rest =>
    if isPair c d then unitsOfCode c.toNat ++ unitsOfCode d.toNat ++ unitsOfAll rest
    else unitsOf c ++ unitsOfAll (d :: rest)

/-- What is written of characters is read up to the closing quote. -/
theorem readUnits_escapeAll (cs : List Char) (units : List ℕ) (rest : List Char) :
    readUnits units (escapeAll cs ++ '"' :: rest) =
      some (units.reverse ++ unitsOfAll cs, rest) := by
  have hreverse : ∀ us vs : List ℕ, (us.reverse ++ vs).reverse = vs.reverse ++ us := by simp
  have hcode : ∀ c : Char, c.toNat < 0x110000 := by
    intro c
    have hbounds := Text.toNat_bounds c
    omega
  fun_induction escapeAll cs generalizing units with
  | case1 =>
    rw [unitsOfAll, List.append_nil]
    rfl
  | case2 c =>
    rw [readUnits_escape, readUnits, hreverse, unitsOfAll]
  | case3 c d more hpair ih =>
    rw [List.append_assoc, List.append_assoc, readUnits_numberEscape (hcode c),
      readUnits_numberEscape (hcode d), ih, unitsOfAll, if_pos hpair]
    simp
  | case4 c d more hpair ih =>
    rw [List.append_assoc, readUnits_escape, ih, unitsOfAll, if_neg hpair]
    simp

/-! ### Joining -/

/-- Whether a code unit is the low half of a pair. -/
def IsLow (unit : ℕ) : Prop := 0xDC00 ≤ unit ∧ unit < 0xE000

theorem joinSurrogates_cons {unit : ℕ} {units : List ℕ}
    (h : unit < 0xD800 ∨ 0xDC00 ≤ unit ∨ ∀ low ∈ units.head?, ¬ IsLow low) :
    joinSurrogates (unit :: units) = ofUnit unit :: joinSurrogates units := by
  cases units with
  | nil => rfl
  | cons low rest =>
    rw [joinSurrogates, if_neg]
    rintro ⟨hhigh, hlimit, hlow⟩
    rcases h with h | h | h
    · omega
    · omega
    · exact h low rfl hlow

/-- A character that is written by its code is joined from it, whatever follows. -/
theorem joinSurrogates_unitsOfCode (c : Char) (units : List ℕ) :
    joinSurrogates (unitsOfCode c.toNat ++ units) = c :: joinSurrogates units := by
  have hbounds := Text.toNat_bounds c
  unfold unitsOfCode
  split_ifs with hplane
  · rw [List.singleton_append, joinSurrogates_cons (by omega), Text.ofUnit_toNat]
  -- Beyond the first plane the two halves give the code back.
  · have hcode : 0x10000 + (0xD800 + (c.toNat - 0x10000) / 0x400 - 0xD800) * 0x400 +
        (0xDC00 + (c.toNat - 0x10000) % 0x400 - 0xDC00) = c.toNat := by
      omega
    show joinSurrogates (_ :: _ :: units) = _
    rw [joinSurrogates, if_pos (by omega), hcode, Char.ofNat_toNat]

theorem not_isLow_head_unitsOfCode (c : Char) {units : List ℕ} {low : ℕ}
    (h : low ∈ (unitsOfCode c.toNat ++ units).head?) : ¬ IsLow low := by
  have hbounds := Text.toNat_bounds c
  unfold unitsOfCode at h
  rintro ⟨hlow, hhigh⟩
  split_ifs at h with hplane
  · have heq : c.toNat = low := Option.some.inj h
    omega
  · have heq : 0xD800 + (c.toNat - 0x10000) / 0x400 = low := Option.some.inj h
    omega

/-- Only a character that stands in for a low half is written with one in front. -/
theorem not_isLow_head_unitsOf {c : Char} {units : List ℕ} {low : ℕ}
    (h : low ∈ (unitsOf c ++ units).head?) (hlow : IsLow low) :
    (half? c).any (0xDC00 ≤ ·) = true := by
  unfold unitsOf at h
  split at h
  · rename_i unit hunit
    obtain rfl : unit = low := Option.some.inj h
    rw [hunit]
    simpa using hlow.1
  · exact absurd hlow (not_isLow_head_unitsOfCode c h)

theorem joinSurrogates_unitsOf {c : Char} {units : List ℕ}
    (h : (half? c).any (· < 0xDC00) = true → ∀ low ∈ units.head?, ¬ IsLow low) :
    joinSurrogates (unitsOf c ++ units) = c :: joinSurrogates units := by
  unfold unitsOf
  split
  · rename_i unit hunit
    rw [List.singleton_append, joinSurrogates_cons, Text.ofUnit_eq_of_half? hunit]
    -- A high half meets no low one here, and a low half begins no pair.
    by_cases hhigh : unit < 0xDC00
    · right; right
      apply h
      rw [hunit]
      simpa using hhigh
    · right; left
      omega
  · exact joinSurrogates_unitsOfCode c units

theorem unitsOfAll_cons_cases (c : Char) (cs : List Char) :
    ∃ units, unitsOfAll (c :: cs) = unitsOf c ++ units ∨
      unitsOfAll (c :: cs) = unitsOfCode c.toNat ++ units := by
  cases cs with
  | nil => exact ⟨[], Or.inl (List.append_nil _).symm⟩
  | cons d rest =>
    rw [unitsOfAll]
    split_ifs
    · exact ⟨_, Or.inr (List.append_assoc ..)⟩
    · exact ⟨_, Or.inl rfl⟩

/-- The code units of characters are joined to them. -/
theorem joinSurrogates_unitsOfAll (cs : List Char) : joinSurrogates (unitsOfAll cs) = cs := by
  fun_induction unitsOfAll cs with
  | case1 => rfl
  | case2 c =>
    have hone : joinSurrogates (unitsOf c ++ []) = c :: joinSurrogates [] :=
      joinSurrogates_unitsOf (by simp)
    rwa [List.append_nil] at hone
  | case3 c d rest hpair ih =>
    rw [List.append_assoc, joinSurrogates_unitsOfCode, joinSurrogates_unitsOfCode, ih]
  | case4 c d rest hpair ih =>
    rw [joinSurrogates_unitsOf, ih]
    -- A low half behind a high one would have made a pair.
    intro hhigh low hlow hislow
    apply hpair
    rw [isPair, hhigh, Bool.true_and]
    obtain ⟨units, hunits | hunits⟩ := unitsOfAll_cons_cases d rest
    · rw [hunits] at hlow
      exact not_isLow_head_unitsOf hlow hislow
    · rw [hunits] at hlow
      exact absurd hislow (not_isLow_head_unitsOfCode d hlow)

/-! ### Strings -/

theorem toList_string (s : String) : (string s).toList = '"' :: (escapeAll s.toList ++ ['"']) := by
  rw [string, String.toList_ofList]
  rfl

/-- A string that was written is read back, up to its closing quote. -/
theorem readString_escapeAll (s : String) (rest : List Char) :
    readString (escapeAll s.toList ++ '"' :: rest) = .ok (s, rest) := by
  rw [readString, readUnits_escapeAll]
  show Except.ok (String.ofList (joinSurrogates ([] ++ unitsOfAll s.toList)), rest) = _
  rw [List.nil_append, joinSurrogates_unitsOfAll, String.ofList_toList]

end Triage.Json
