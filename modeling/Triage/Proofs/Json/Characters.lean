import Triage.Proofs.Json.Doubles
import Triage.Proofs.Json.Strings

/-!
# Characters of JSON texts

A text that is written has no characters but the printable ones of ASCII and line feeds
(`isAscii_write`), so that every reader finds the same ends of lines in it.
-/

namespace Triage.Json

/-- Whether a character is a printable one of ASCII or a line feed. -/
def IsAscii (c : Char) : Prop :=
  c = '\n' ∨ 0x20 ≤ c.toNat ∧ c.toNat < 0x7F

instance (c : Char) : Decidable (IsAscii c) :=
  inferInstanceAs (Decidable (_ ∨ _))

theorem isAscii_of_isDigit {c : Char} (h : c.isDigit = true) : IsAscii c := by
  have hbounds : 48 ≤ c.toNat ∧ c.toNat ≤ 57 := by
    simpa [Char.isDigit, UInt32.le_iff_toNat_le] using h
  exact Or.inr ⟨by omega, by omega⟩

/-- Whether all characters are of that kind. -/
def AreAscii (cs : List Char) : Prop :=
  ∀ c ∈ cs, IsAscii c

-- Only the characters at hand are looked at, not all that there are.
instance (cs : List Char) : Decidable (AreAscii cs) :=
  List.decidableBAll IsAscii cs

theorem areAscii_cons_iff {c : Char} {cs : List Char} :
    AreAscii (c :: cs) ↔ IsAscii c ∧ AreAscii cs :=
  List.forall_mem_cons

theorem AreAscii.append {cs ds : List Char} (hcs : AreAscii cs) (hds : AreAscii ds) :
    AreAscii (cs ++ ds) :=
  List.forall_mem_append.mpr ⟨hcs, hds⟩

/-! ### Strings -/

theorem areAscii_unitEscape (n : ℕ) : AreAscii (unitEscape n) := by
  have hdigit : ∀ m, IsAscii (Nat.digitChar (m % 16)) := by
    have hall : ∀ d < 16, IsAscii (Nat.digitChar d) := by decide
    exact fun m => hall _ (Nat.mod_lt m (by decide))
  rw [unitEscape, hexDigits_four]
  simp only [areAscii_cons_iff, hdigit, true_and]
  decide

theorem areAscii_numberEscape (n : ℕ) : AreAscii (numberEscape n) := by
  unfold numberEscape
  split_ifs
  · exact areAscii_unitEscape n
  · exact (areAscii_unitEscape _).append (areAscii_unitEscape _)

theorem areAscii_escape (d : Char) : AreAscii (escape d) := by
  unfold escape
  split
  · decide
  · decide
  · decide
  · decide
  · decide
  · decide
  · decide
  · split_ifs with hprintable
    · exact List.forall_mem_singleton.mpr (Or.inr hprintable)
    · split
      · exact areAscii_unitEscape _
      · exact areAscii_numberEscape _

theorem areAscii_escapeAll (cs : List Char) : AreAscii (escapeAll cs) := by
  fun_induction escapeAll cs with
  | case1 => decide
  | case2 d => exact areAscii_escape d
  | case3 a b rest hpair ih =>
    exact ((areAscii_numberEscape _).append (areAscii_numberEscape _)).append ih
  | case4 a b rest hpair ih => exact (areAscii_escape a).append ih

/-! ### Texts -/

/-- Whether a text has no other characters. -/
def IsAsciiText (s : String) : Prop :=
  AreAscii s.toList

instance (s : String) : Decidable (IsAsciiText s) :=
  inferInstanceAs (Decidable (AreAscii s.toList))

theorem IsAsciiText.append {s t : String} (hs : IsAsciiText s) (ht : IsAsciiText t) :
    IsAsciiText (s ++ t) := by
  unfold IsAsciiText
  rw [String.toList_append]
  exact AreAscii.append hs ht

theorem isAsciiText_string (s : String) : IsAsciiText (string s) := by
  unfold IsAsciiText
  rw [toList_string, areAscii_cons_iff]
  exact ⟨by decide, (areAscii_escapeAll _).append (by decide)⟩

theorem IsRun.areAscii {cs : List Char} (h : IsRun cs) : AreAscii cs :=
  fun c hc => isAscii_of_isDigit (h.digits c hc)

theorem isAsciiText_int (n : ℤ) : IsAsciiText (scalar (.int n)) := by
  have htext : scalar (.int n) = n.repr := rfl
  rw [htext]
  cases n with
  | ofNat m =>
    have hdigits : (Int.repr (Int.ofNat m)).toList = Nat.toDigits 10 m := Nat.toList_repr
    unfold IsAsciiText
    rw [hdigits]
    exact (isRun_toDigits m).areAscii
  | negSucc m =>
    have hsign : IsAsciiText "-" := by decide
    refine hsign.append ?_
    unfold IsAsciiText
    rw [Nat.toList_repr]
    exact (isRun_toDigits (m + 1)).areAscii

theorem IsTail.areAscii {cs : List Char} (h : IsTail cs) : AreAscii cs := by
  have hsign : ∀ mark : Char, mark = '-' ∨ mark = '+' → IsAscii mark := by
    rintro mark (rfl | rfl)
    · decide
    · decide
  cases h with
  | fraction hds => exact areAscii_cons_iff.mpr ⟨by decide, hds.areAscii⟩
  | exponent hmark hes =>
    exact areAscii_cons_iff.mpr ⟨by decide, areAscii_cons_iff.mpr ⟨hsign _ hmark, hes.areAscii⟩⟩
  | both hds hmark hes =>
    refine areAscii_cons_iff.mpr ⟨by decide, hds.areAscii.append ?_⟩
    exact areAscii_cons_iff.mpr ⟨by decide, areAscii_cons_iff.mpr ⟨hsign _ hmark, hes.areAscii⟩⟩

theorem IsReal.isAsciiText {s : String} (h : IsReal s) : IsAsciiText s := by
  obtain ⟨run, tail, htext, hrun, htail⟩ := h
  unfold IsAsciiText
  rw [htext]
  exact hrun.toIsRun.areAscii.append htail.areAscii

theorem isAsciiText_real (x : Double) : IsAsciiText (scalar (.real x)) := by
  cases x with
  | infinite isNegative => cases isNegative with
    | true => decide
    | false => decide
  | nan isNegative => exact (by decide : IsAsciiText "NaN")
  | finite isNegative m =>
    have hsign : IsAsciiText (Double.signText isNegative) := by
      cases isNegative with
      | true => decide
      | false => decide
    refine hsign.append ?_
    split_ifs with hm
    · decide
    · exact (isReal_unitsText hm).isAsciiText

theorem isAsciiText_scalar (s : Scalar) : IsAsciiText (scalar s) := by
  cases s with
  | null => decide
  | bool b => cases b with
    | true => decide
    | false => decide
  | int n => exact isAsciiText_int n
  | real x => exact isAsciiText_real x
  | text s => exact isAsciiText_string s
  | other s => exact isAsciiText_string s

theorem isAsciiText_memberName (s : Scalar) : IsAsciiText (memberName s) := by
  cases s with
  | text s => exact isAsciiText_string s
  | _ => exact ((by decide : IsAsciiText "\"").append (isAsciiText_scalar _)).append (by decide)

/-! ### Documents -/

theorem isAsciiText_newLine (level : ℕ) : IsAsciiText (newLine level) := by
  unfold IsAsciiText
  rw [newLine, String.toList_ofList, areAscii_cons_iff]
  refine ⟨Or.inl rfl, fun c hc => ?_⟩
  rw [List.eq_of_mem_replicate hc]
  decide

theorem isAsciiText_intercalate {sep : String} (hsep : IsAsciiText sep) {parts : List String}
    (h : ∀ part ∈ parts, IsAsciiText part) : IsAsciiText (sep.intercalate parts) := by
  induction parts with
  | nil => exact (by decide : IsAsciiText "")
  | cons part parts ih =>
    obtain ⟨hpart, hparts⟩ := List.forall_mem_cons.mp h
    cases parts with
    | nil =>
      rw [String.intercalate_singleton]
      exact hpart
    | cons next parts =>
      rw [String.intercalate_cons_cons]
      exact (hpart.append hsep).append (ih hparts)

theorem isAsciiText_bracketed {left right : String} (hleft : IsAsciiText left)
    (hright : IsAsciiText right) {parts : List String} (h : ∀ part ∈ parts, IsAsciiText part)
    (level : ℕ) : IsAsciiText (bracketed .indented level left right parts) := by
  unfold bracketed
  split_ifs
  · exact hleft.append hright
  · have hcomma : IsAsciiText "," := by decide
    have hbetween : IsAsciiText ("," ++ newLine (level + 1)) :=
      hcomma.append (isAsciiText_newLine (level + 1))
    exact (((hleft.append (isAsciiText_newLine _)).append
      (isAsciiText_intercalate hbetween h)).append (isAsciiText_newLine level)).append hright

mutual

/-- A value is written in ASCII. -/
theorem isAsciiText_write (level : ℕ) (v : Value) : IsAsciiText (write .indented level v) := by
  cases v with
  | scalar s => exact isAsciiText_scalar s
  | list items =>
    rw [write]
    exact isAsciiText_bracketed (by decide) (by decide) (isAsciiText_writeItems _ items) level
  | table entries =>
    rw [write]
    exact isAsciiText_bracketed (by decide) (by decide) (isAsciiText_writeMembers _ entries) level

theorem isAsciiText_writeItems (level : ℕ) (items : List Value) :
    ∀ part ∈ writeItems .indented level items, IsAsciiText part := by
  cases items with
  | nil => simp [writeItems]
  | cons v items =>
    rw [writeItems, List.forall_mem_cons]
    exact ⟨isAsciiText_write level v, isAsciiText_writeItems level items⟩

theorem isAsciiText_writeMembers (level : ℕ) (entries : List (Scalar × Value)) :
    ∀ part ∈ writeMembers .indented level entries, IsAsciiText part := by
  cases entries with
  | nil => simp [writeMembers]
  | cons p entries =>
    obtain ⟨k, v⟩ := p
    rw [writeMembers, List.forall_mem_cons]
    have hcolon : IsAsciiText ": " := by decide
    exact ⟨((isAsciiText_memberName k).append hcolon).append (isAsciiText_write level v),
      isAsciiText_writeMembers level entries⟩

end

end Triage.Json
