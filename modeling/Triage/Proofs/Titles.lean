import Triage.Proofs.Finding.Canonical
import Triage.Proofs.Matching.Similarity
import Triage.Proofs.Text.Wording
import Triage.Supplement

/-!
# Titles in the three stages

A refinement, a supplement and a reconciliation each compare titles in a form of their own. The
first two forms are one key, that of the title in full lower case (`titleKey_eq`), and the tokens of
the third one are the long words of that key, but for noise (`mem_tokens_iff`). So the stages agree
on which titles are equal, as long as none of them has a backslash, of which only tokens know
(`title_forms_agree`).
-/

namespace Triage

namespace Text

/-! ### Keys -/

/-- A key sees only which characters are letters and digits of ASCII. -/
theorem squeeze_eq_of_looksAlike {cs ds : List Char} (h : List.Forall₂ LooksAlike cs ds) :
    squeeze (fun c => !isLowerAlnum c) cs = squeeze (fun c => !isLowerAlnum c) ds := by
  induction h with
  | nil => rfl
  | cons hab _ ih =>
    rw [squeeze_cons, squeeze_cons, ih]
    rcases hab with rfl | ⟨ha, hb⟩
    · rfl
    · unfold squeezeCons
      rw [if_pos (by simp [ha]), if_pos (by simp [hb])]

/-- The key of a title in full lower case is that of what comparisons with ASCII see. -/
theorem alnumKey_fullLower (cs : List Char) : alnumKey (fullLower cs) = alnumKey (lower cs) := by
  unfold alnumKey fullLower
  rw [squeeze_eq_of_looksAlike (forall₂_lowerAfter [] cs)]

/-- The words of ASCII letters and digits in a text. -/
def alnumWords (cs : List Char) : List (List Char) :=
  pieces (fun c => !isLowerAlnum c) cs

/-- A key is its words with single spaces between them. -/
theorem alnumKey_eq_intercalate (cs : List Char) :
    alnumKey cs = [' '].intercalate (alnumWords cs) := by
  have hspace : (!isLowerAlnum ' ') = true := by decide
  have hsqueezed : IsSqueezed (fun c => !isLowerAlnum c) (alnumKey cs) :=
    (isSqueezed_squeeze hspace cs).of_isInfix (trim_isInfix _)
  have htrimmed : IsTrimmed (alnumKey cs) := isTrimmed_trim _
  -- A gap in a squeezed text is a space, which a trimmed one does not have at its ends.
  have hends : ∀ c ∈ alnumKey cs, isBlank c = false → (!isLowerAlnum c) = false := by
    intro c hc hblank
    cases halnum : isLowerAlnum c with
    | true => rfl
    | false =>
      rw [hsqueezed.spaces c hc (by simp [halnum])] at hblank
      exact absurd hblank (by decide)
  have hpieces : alnumWords (alnumKey cs) = alnumWords cs := (seesGaps_pieces _).view_alnumKey cs
  rw [← hpieces]
  refine hsqueezed.eq_intercalate_pieces hspace ?_ ?_
  · exact fun c hc => hends c (List.mem_of_mem_head? hc) (htrimmed.head c hc)
  · exact fun c hc => hends c (List.mem_of_mem_getLast? hc) (htrimmed.last c hc)

/-- Lowering keeps the blanks between words. -/
theorem seesGaps_alnumWords_lower : SeesGaps isBlank fun cs => alnumWords (lower cs) where
  nil := rfl
  gap := by
    intro b hb cs rest
    have hlower : lower (cs ++ b :: rest) = lower cs ++ b :: lower rest := by
      unfold lower
      rw [List.flatMap_append, List.flatMap_cons, lowerChar_of_isBlank hb, List.singleton_append]
    rw [hlower]
    exact (seesGaps_pieces _).gap (by simp [not_isLowerAlnum_of_isBlank hb]) _ _

/-- Putting a title on one line changes nothing of its key. -/
theorem titleKey_eq (cs : List Char) : titleKey cs = alnumKey (lower cs) := by
  unfold titleKey
  rw [alnumKey_eq_intercalate, alnumKey_eq_intercalate,
    seesGaps_alnumWords_lower.view_singleLine cs]

/-! ### Tokens -/

theorem blankEscapes_eq_self {cs : List Char} (h : '\\' ∉ cs) : blankEscapes cs = cs := by
  induction cs with
  | nil => rfl
  | cons c cs ih =>
    rw [List.mem_cons, not_or] at h
    have hcons : blankEscapes (c :: cs) = blankEscape c (blankEscapes cs) := rfl
    rw [hcons, ih h.2]
    unfold blankEscape
    rw [if_neg (Ne.symm h.1)]

theorem notMem_lower {cs : List Char} (h : '\\' ∉ cs) : '\\' ∉ lower cs := by
  intro hmem
  obtain ⟨c, hc, hlow⟩ := List.mem_flatMap.mp hmem
  unfold lowerChar at hlow
  split_ifs at hlow with hletter
  · -- The small letters are no backslash.
    obtain ⟨hfirst, hlast⟩ := hletter
    have hlow' := congrArg Char.toNat (List.mem_singleton.mp hlow)
    have hfirst' : 65 ≤ c.toNat := hfirst
    have hlast' : c.toNat ≤ 90 := hlast
    have hvalid : (c.toNat + 32).isValidChar := Or.inl (by omega)
    rw [toNat_ofNat hvalid] at hlow'
    have hcode : '\\'.toNat = 92 := rfl
    omega
  · exact absurd hlow (by decide)
  · exact absurd hlow (by decide)
  · rw [List.mem_singleton.mp hlow] at h
    exact h hc

/-- The words of a key are not split any further. -/
theorem words_alnumKey (cs : List Char) : words (alnumKey cs) = alnumWords cs := by
  rw [words_eq_pieces, alnumKey_eq_intercalate]
  refine pieces_intercalate (by decide) fun w hw => ?_
  obtain ⟨hne, hchars⟩ := not_of_mem_pieces hw
  refine ⟨hne, fun c hc => ?_⟩
  by_contra hblank
  have halnum := hchars c hc
  rw [not_isLowerAlnum_of_isBlank (Bool.eq_true_of_not_eq_false hblank)] at halnum
  exact Bool.false_ne_true halnum.symm

theorem tokens_eq {s : String} (h : '\\' ∉ s.toList) :
    tokens s = (((words (titleKey s.toList)).filter isToken).map String.ofList).eraseDups := by
  unfold tokens
  rw [blankEscapes_eq_self (notMem_lower h), titleKey_eq]

/-- The words between the spaces of a key, the empty one left out. -/
theorem mem_words_titleKey_iff {cs w : List Char} (hne : w ≠ []) :
    w ∈ words (titleKey cs) ↔ w ∈ (titleKey cs).splitOn ' ' := by
  rw [titleKey_eq, words_alnumKey, alnumKey_eq_intercalate]
  cases hwords : alnumWords (lower cs) with
  | nil => simpa [List.intercalate] using hne
  | cons v vs =>
    rw [List.splitOn_intercalate ' ' _ (List.cons_ne_nil v vs)]
    rintro u hu hspace
    rw [← hwords] at hu
    have hchars := (not_of_mem_pieces hu).2 ' ' hspace
    exact absurd hchars (by decide)

/-- The tokens of a title without a backslash are the words of its key that are long enough and no
noise. -/
theorem mem_tokens_iff {s : String} (h : '\\' ∉ s.toList) (w : String) :
    w ∈ tokens s ↔ w.toList ∈ (titleKey s.toList).splitOn ' ' ∧
      minTokenLength ≤ w.length ∧ w ∉ noiseWords := by
  have hword : ∀ v, isToken v = true ↔
      minTokenLength ≤ v.length ∧ String.ofList v ∉ noiseWords := by
    simp [isToken]
  rw [tokens_eq h, List.mem_eraseDups, List.mem_map]
  constructor
  · rintro ⟨v, hv, rfl⟩
    obtain ⟨hmem, htoken⟩ := List.mem_filter.mp hv
    obtain ⟨hlength, hnoise⟩ := (hword v).mp htoken
    have hne : v ≠ [] := by
      rintro rfl
      exact absurd hlength (by decide)
    rw [String.toList_ofList, String.length_ofList]
    exact ⟨(mem_words_titleKey_iff hne).mp hmem, hlength, hnoise⟩
  · rintro ⟨hmem, hlength, hnoise⟩
    have hne : w.toList ≠ [] := by
      intro hnil
      rw [← String.length_toList, hnil] at hlength
      exact absurd hlength (by decide)
    refine ⟨w.toList, List.mem_filter.mpr ⟨(mem_words_titleKey_iff hne).mpr hmem, ?_⟩,
      String.ofList_toList⟩
    rw [hword, String.ofList_toList, String.length_toList]
    exact ⟨hlength, hnoise⟩

end Text

/-! ### Agreement -/

/-- What the stages compare of titles agrees. A refinement and a supplement compare one key, that of
the full lower case. Of a title without a backslash, a reconciliation compares the long words
of this key that are no noise, so that titles which are equal before are as like as can be. -/
theorem title_forms_agree :
    (∀ s : String, onChars Text.titleKey s = plainTitle s ∧
      plainTitle s = onChars (fun cs => Text.alnumKey (Text.fullLower cs)) s) ∧
    (∀ f g : Finding, f.dedupeKey.title = g.dedupeKey.title ↔
      f.topicKey.title = g.topicKey.title) ∧
    (∀ s : String, '\\' ∉ s.toList → ∀ w, w ∈ Text.tokens s ↔
      w.toList ∈ (plainTitle s).toList.splitOn ' ' ∧ 3 ≤ w.length ∧ w ∉ Text.noiseWords) ∧
    ∀ s t : String, '\\' ∉ s.toList → '\\' ∉ t.toList → plainTitle s = plainTitle t →
      jaccard (Text.tokens s) (Text.tokens t) = 1 ∨ Text.tokens s = [] ∧ Text.tokens t = [] := by
  have hkey : ∀ s : String, onChars Text.titleKey s = plainTitle s := by
    intro s
    unfold plainTitle onChars
    rw [Text.titleKey_eq]
  refine ⟨fun s => ⟨hkey s, ?_⟩, fun f g => ?_, fun s hs w => ?_, fun s t hs ht heq => ?_⟩
  · unfold plainTitle onChars
    simp only [Text.alnumKey_fullLower]
  · show onChars Text.titleKey f.title = onChars Text.titleKey g.title ↔
      plainTitle f.title = plainTitle g.title
    rw [hkey, hkey]
  · rw [← hkey, toList_onChars]
    exact Text.mem_tokens_iff hs w
  · have hkeys : Text.titleKey s.toList = Text.titleKey t.toList := by
      rw [← hkey, ← hkey] at heq
      exact String.ofList_injective heq
    have htokens : Text.tokens s = Text.tokens t := by
      rw [Text.tokens_eq hs, Text.tokens_eq ht, hkeys]
    by_cases hempty : Text.tokens t = []
    · exact Or.inr ⟨htokens.trans hempty, hempty⟩
    · rw [htokens]
      exact Or.inl
        (jaccard_eq_one (nodup_eraseDups _) (nodup_eraseDups _) (fun _ => Iff.rfl) hempty)

/-- A Kelvin sign and a hyphen do not keep titles from being as like as can be. -/
theorem title_forms_agree_kelvin :
    '\\' ∉ "Missing \u212Aey check".toList ∧ '\\' ∉ "missing key-check!".toList ∧
      plainTitle "Missing \u212Aey check" = plainTitle "missing key-check!" ∧
      "key" ∈ Text.tokens "Missing \u212Aey check" ∧
      jaccard (Text.tokens "Missing \u212Aey check") (Text.tokens "missing key-check!") = 1 := by
  obtain ⟨-, -, htokens, hlike⟩ := title_forms_agree
  have hs : '\\' ∉ "Missing \u212Aey check".toList := by decide
  have ht : '\\' ∉ "missing key-check!".toList := by decide
  have hplain : plainTitle "Missing \u212Aey check" = plainTitle "missing key-check!" := by
    decide +kernel
  have hkey : "key" ∈ Text.tokens "Missing \u212Aey check" :=
    (htokens _ hs "key").mpr (by decide +kernel)
  refine ⟨hs, ht, hplain, hkey, ?_⟩
  rcases hlike _ _ hs ht hplain with hone | ⟨hempty, -⟩
  · exact hone
  · rw [hempty] at hkey
    exact absurd hkey List.not_mem_nil

end Triage
