import Triage.Proofs.Text.Codes
import Triage.Proofs.Text.Words
import Triage.Text.Case

/-!
# The wording of a title

What a title says, whatever its case, blanks and ASCII punctuation, is its wording. A key of titles
keeps of the wording the letters and digits that ASCII has, and no more: titles with one key have
the same `letters`, and they are worded the same iff they have the same `strangers`, which are all
other characters at their places between the letters (`wording_eq_iff`). A title that is put on one
line keeps its wording (`wording_singleLine`), so nothing is lost before the key is made.
-/

namespace Triage.Text

/-- A mark of punctuation that ASCII has. -/
def isPunctuation (c : Char) : Bool :=
  let n := c.toNat
  (0x21 ≤ n && n ≤ 0x2F) || (0x3A ≤ n && n ≤ 0x40) || (0x5B ≤ n && n ≤ 0x60) ||
    (0x7B ≤ n && n ≤ 0x7E)

/-- Whether a character is part of the wording of a text. -/
def isWorded (c : Char) : Bool :=
  !isBlank c && !isPunctuation c

/-- What a text says: it in lower case, without blanks and ASCII punctuation. -/
def wording (cs : List Char) : List Char :=
  (fullLower cs).filter isWorded

/-- The ASCII letters and digits of a wording. -/
def letters (cs : List Char) : List Char :=
  (wording cs).filter isLowerAlnum

/-- What stands in a wording between its ASCII letters and digits. -/
def strangers (cs : List Char) : List (List Char) :=
  (wording cs).splitOnP isLowerAlnum

/-- A wording is made of its letters and of what stands between them. -/
theorem wording_eq_iff {cs ds : List Char} :
    wording cs = wording ds ↔ letters cs = letters ds ∧ strangers cs = strangers ds := by
  constructor
  · intro h
    unfold letters strangers
    rw [h]
    exact ⟨rfl, rfl⟩
  · rintro ⟨hletters, hstrangers⟩
    unfold letters at hletters
    unfold strangers at hstrangers
    have hcs := List.splitOnP_spec (p := isLowerAlnum) (wording cs)
    rw [hletters, hstrangers, List.splitOnP_spec] at hcs
    exact hcs.symm

/-! ### Blanks -/

/-- The codes of all blanks. -/
def blankCodes : List ℕ :=
  List.range' 0x09 5 ++ List.range' 0x1C 5 ++ List.range' 0x2000 11 ++
    [0x85, 0xA0, 0x1680, 0x2028, 0x2029, 0x202F, 0x205F, 0x3000]

theorem mem_blankCodes {c : Char} (h : isBlank c = true) : c.toNat ∈ blankCodes := by
  unfold isBlank at h
  simp only [Bool.or_eq_true, Bool.and_eq_true, decide_eq_true_eq, beq_iff_eq] at h
  unfold blankCodes
  simp only [List.mem_append, List.mem_range'_1, List.mem_cons, List.not_mem_nil, or_false]
  omega

/-- A blank is no letter, and ends the word in front of it. -/
structure EndsWord (c : Char) : Prop where
  notSigma : c ≠ '\u03A3'
  lower : fullLowerChar c = [c]
  notIgnorable : caseIgnorableRanges.has c = false
  notCased : casedRanges.has c = false

theorem endsWord_of_isBlank {c : Char} (h : isBlank c = true) : EndsWord c := by
  -- There are few blanks, so each of them is looked at.
  have hall : ∀ n ∈ blankCodes, Char.ofNat n ≠ '\u03A3' ∧
      fullLowerChar (Char.ofNat n) = [Char.ofNat n] ∧
      caseIgnorableRanges.has (Char.ofNat n) = false ∧ casedRanges.has (Char.ofNat n) = false := by
    decide +kernel
  obtain ⟨hsigma, hlower, hignorable, hcased⟩ := hall c.toNat (mem_blankCodes h)
  rw [Char.ofNat_toNat] at hsigma hlower hignorable hcased
  exact ⟨hsigma, hlower, hignorable, hcased⟩

variable {b : Char}

theorem meetsLetter_append_blank (hb : isBlank b = true) (cs rest : List Char) :
    meetsLetter (cs ++ b :: rest) = meetsLetter cs := by
  have hends := endsWord_of_isBlank hb
  unfold meetsLetter
  induction cs with
  | nil => simp [hends.notIgnorable, hends.notCased]
  | cons c cs ih =>
    cases hc : caseIgnorableRanges.has c with
    | true =>
      rw [List.cons_append, List.dropWhile_cons_of_pos hc, List.dropWhile_cons_of_pos hc, ih]
    | false => simp [hc]

theorem lowerAfter_append_blank (hb : isBlank b = true) (before further cs : List Char) :
    lowerAfter (before ++ b :: further) cs = lowerAfter before cs := by
  induction cs generalizing before with
  | nil => rfl
  | cons c cs ih =>
    rw [lowerAfter, lowerAfter, meetsLetter_append_blank hb, ← List.cons_append, ih]

/-- The words on both sides of a blank are lowered each for itself. -/
theorem lowerAfter_blank (hb : isBlank b = true) (before cs rest : List Char) :
    lowerAfter before (cs ++ b :: rest) = lowerAfter before cs ++ b :: fullLower rest := by
  have hends := endsWord_of_isBlank hb
  induction cs generalizing before with
  | nil =>
    have hrest : lowerAfter (b :: before) rest = fullLower rest :=
      lowerAfter_append_blank hb [] before rest
    rw [List.nil_append]
    show _ ++ lowerAfter (b :: before) rest = _
    rw [hrest]
    simp [hends.notSigma, hends.lower, lowerAfter]
  | cons c cs ih =>
    rw [List.cons_append, lowerAfter, lowerAfter, meetsLetter_append_blank hb, ih,
      List.append_assoc]

/-! ### Titles on one line -/

theorem wording_append_blank (hb : isBlank b = true) (cs rest : List Char) :
    wording (cs ++ b :: rest) = wording cs ++ wording rest := by
  have hskip : isWorded b = false := by
    unfold isWorded
    rw [hb]
    rfl
  have hlower : fullLower (cs ++ b :: rest) = fullLower cs ++ b :: fullLower rest :=
    lowerAfter_blank hb [] cs rest
  unfold wording
  rw [hlower, List.filter_append, List.filter_cons_of_neg (by simp [hskip])]

/-- Wordings do not tell what stands between the words. -/
theorem seesGaps_wording : SeesGaps isBlank wording where
  nil := rfl
  gap := wording_append_blank

/-- A title that is put on one line keeps its wording. -/
theorem wording_singleLine (cs : List Char) : wording (singleLine cs) = wording cs :=
  seesGaps_wording.view_singleLine cs

/-! ### Letters -/

theorem toNat_of_isLowerAlnum {c : Char} (h : isLowerAlnum c = true) :
    (0x61 ≤ c.toNat ∧ c.toNat ≤ 0x7A) ∨ (0x30 ≤ c.toNat ∧ c.toNat ≤ 0x39) := by
  unfold isLowerAlnum at h
  simpa [Char.le_def, UInt32.le_iff_toNat_le] using h

theorem isWorded_of_isLowerAlnum {c : Char} (h : isLowerAlnum c = true) : isWorded c = true := by
  have hcode := toNat_of_isLowerAlnum h
  unfold isWorded isBlank isPunctuation
  simp only [Bool.and_eq_true, Bool.not_eq_true', Bool.or_eq_false_iff, Bool.and_eq_false_iff,
    decide_eq_false_iff_not, beq_eq_false_iff_ne]
  omega

/-- A small letter that is not of ASCII is not made one of ASCII, but for those that are compared
with ASCII. -/
theorem isLowerAlnum_smallLetter {c : Char} (hc : 0x80 ≤ c.toNat) (hkelvin : c ≠ '\u212A') :
    isLowerAlnum (smallLetter c) = false := by
  -- Of all runs of letters only that of the Kelvin sign leads into ASCII.
  have hruns : ∀ r ∈ lowerRuns, r.last < 0x80 ∨ 0x80 ≤ (r.first : ℤ) + r.shift ∨
      r.first = 0x212A ∧ r.last = 0x212A := by
    decide +kernel
  rw [← Bool.not_eq_true]
  intro h
  have hcode := toNat_of_isLowerAlnum h
  unfold smallLetter otherCase at hcode
  simp only at hcode
  split at hcode
  · rename_i r hfind
    have hcovers := List.find?_some hfind
    simp only [Bool.and_eq_true, decide_eq_true_eq] at hcovers
    have hne : c.toNat ≠ 0x212A := by
      intro heq
      apply hkelvin
      rw [← Char.ofNat_toNat c, heq]
    have hlow : 0x80 ≤ ((c.toNat : ℤ) + r.shift).toNat := by
      rcases hruns r (List.mem_of_find?_eq_some hfind) with hlast | hfirst | ⟨hfirst, hlast⟩
      · omega
      · omega
      · omega
    by_cases hvalid : (((c.toNat : ℤ) + r.shift).toNat).isValidChar
    · rw [toNat_ofNat hvalid] at hcode
      omega
    · rw [toNat_ofNat_of_not_isValidChar hvalid] at hcode
      omega
  · omega

/-- Whether two characters are one, or none of the letters and digits of ASCII. -/
def LooksAlike (a b : Char) : Prop :=
  a = b ∨ isLowerAlnum a = false ∧ isLowerAlnum b = false

theorem looksAlike_refl (cs : List Char) : List.Forall₂ LooksAlike cs cs :=
  List.forall₂_same.mpr fun _ _ => Or.inl rfl

theorem forall₂_fullLowerChar (c : Char) :
    List.Forall₂ LooksAlike (fullLowerChar c) (lowerChar c) := by
  have hascii : ∀ n < 0x80, fullLowerChar (Char.ofNat n) = lowerChar (Char.ofNat n) := by
    decide +kernel
  -- In ASCII both agree, and beyond it neither comes to a letter of ASCII.
  by_cases hc : c.toNat < 0x80
  · have h := hascii c.toNat hc
    rw [Char.ofNat_toNat] at h
    rw [h]
    exact looksAlike_refl _
  · by_cases hkelvin : c = '\u212A'
    · have h : fullLowerChar '\u212A' = lowerChar '\u212A' := by decide +kernel
      rw [hkelvin, h]
      exact looksAlike_refl _
    · have hsmall := isLowerAlnum_smallLetter (Nat.le_of_not_lt hc) hkelvin
      have hnot : isLowerAlnum c = false := by
        rw [← Bool.not_eq_true]
        intro h
        have hcode := toNat_of_isLowerAlnum h
        omega
      have hupper : ¬('A' ≤ c ∧ c ≤ 'Z') := by
        rw [Char.le_def, Char.le_def, UInt32.le_iff_toNat_le, UInt32.le_iff_toNat_le]
        rintro ⟨-, hlast⟩
        have hlast' : c.toNat ≤ 0x5A := hlast
        omega
      unfold fullLowerChar lowerChar
      rw [if_neg hupper, if_neg hkelvin]
      split_ifs with hdotted
      · exact looksAlike_refl _
      · exact .cons (Or.inr ⟨hsmall, hnot⟩) .nil

/-- All letters and digits of ASCII are seen by comparisons with ASCII, each in its place. -/
theorem forall₂_lowerAfter (before cs : List Char) :
    List.Forall₂ LooksAlike (lowerAfter before cs) (lower cs) := by
  have hcons : ∀ c rest, lower (c :: rest) = lowerChar c ++ lower rest := fun _ _ => rfl
  induction cs generalizing before with
  | nil => exact .nil
  | cons c cs ih =>
    rw [lowerAfter, hcons]
    refine List.rel_append ?_ (ih _)
    split_ifs with hsigma
    · -- Neither small sigma is a letter of ASCII.
      simp only [Bool.and_eq_true, decide_eq_true_eq] at hsigma
      rw [hsigma.1.1]
      exact .cons (Or.inr (by decide)) .nil
    · exact forall₂_fullLowerChar c

theorem filter_eq_of_looksAlike {cs ds : List Char} (h : List.Forall₂ LooksAlike cs ds) :
    cs.filter isLowerAlnum = ds.filter isLowerAlnum := by
  induction h with
  | nil => rfl
  | cons hab _ ih =>
    rcases hab with rfl | ⟨ha, hb⟩
    · rw [List.filter_cons, List.filter_cons, ih]
    · rw [List.filter_cons_of_neg (by simp [ha]), List.filter_cons_of_neg (by simp [hb]), ih]

theorem letters_eq (cs : List Char) : letters cs = (lower cs).filter isLowerAlnum := by
  have hboth : ∀ c, (isLowerAlnum c && isWorded c) = isLowerAlnum c := by
    intro c
    cases hc : isLowerAlnum c with
    | true => rw [isWorded_of_isLowerAlnum hc]; rfl
    | false => rfl
  unfold letters wording
  rw [List.filter_filter, funext hboth]
  exact filter_eq_of_looksAlike (forall₂_lowerAfter [] cs)

/-! ### Keys -/

theorem not_isLowerAlnum_of_isBlank {c : Char} (h : isBlank c = true) :
    isLowerAlnum c = false := by
  rw [← Bool.not_eq_true]
  intro halnum
  have hworded := isWorded_of_isLowerAlnum halnum
  unfold isWorded at hworded
  rw [h] at hworded
  exact absurd hworded (by simp)

/-- A view that passes over all but the letters and digits of ASCII sees a key as it sees the
text. -/
theorem SeesGaps.view_alnumKey {α : Type} {view : List Char → List α}
    (h : SeesGaps (fun c => !isLowerAlnum c) view) (cs : List Char) :
    view (alnumKey cs) = view cs := by
  have hblank : ∀ c, isBlank c = true → (!isLowerAlnum c) = true := by
    intro c hc
    rw [not_isLowerAlnum_of_isBlank hc]
    rfl
  unfold alnumKey
  rw [h.view_trim hblank]
  exact h.view_append_squeeze (by decide) [] cs

/-- A key has all letters and digits of ASCII. -/
theorem filter_alnumKey (cs : List Char) :
    (alnumKey cs).filter isLowerAlnum = cs.filter isLowerAlnum :=
  (seesGaps_filter isLowerAlnum).view_alnumKey cs

/-- Titles with one key in a refinement have the same letters. -/
theorem letters_eq_of_titleKey_eq {cs ds : List Char} (h : titleKey cs = titleKey ds) :
    letters cs = letters ds := by
  have hkey : ∀ es, (titleKey es).filter isLowerAlnum = letters es := by
    intro es
    rw [titleKey, filter_alnumKey, ← letters_eq, letters, wording_singleLine, ← letters]
  rw [← hkey cs, h, hkey ds]

/-- Titles with one key between passes have the same letters. -/
theorem letters_eq_of_alnumKey_lower_eq {cs ds : List Char}
    (h : alnumKey (lower cs) = alnumKey (lower ds)) : letters cs = letters ds := by
  have hkey := congrArg (List.filter isLowerAlnum) h
  rwa [filter_alnumKey, filter_alnumKey, ← letters_eq, ← letters_eq] at hkey

end Triage.Text
