import Triage.Text.Tokens
import Mathlib.Data.List.Chain
import Mathlib.Data.List.DropRight

/-!
# Normal forms of text

`trim`, `tidy` and `singleLine` each have a normal form, a predicate on the characters alone:
`IsTrimmed`, `IsTidy` and `IsSingleLine`. The result of each function is in its normal form, and a
text in that form is left as it is, so tidying twice is tidying once (`tidy_tidy`,
`singleLine_singleLine`). Neither of them makes a text say something, or nothing
(`isMeaningful_tidy`, `isMeaningful_singleLine`).
-/

namespace Triage.Text

/-! ### Trimmed text -/

/-- Whether a text neither begins nor ends with a blank. -/
structure IsTrimmed (cs : List Char) : Prop where
  head : ∀ c ∈ cs.head?, isBlank c = false
  last : ∀ c ∈ cs.getLast?, isBlank c = false

theorem dropTrailing_eq_rdropWhile (p : Char → Bool) (cs : List Char) :
    dropTrailing p cs = cs.rdropWhile p := rfl

theorem trim_isInfix (cs : List Char) : trim cs <:+: cs := by
  unfold trim
  rw [dropTrailing_eq_rdropWhile]
  exact (List.rdropWhile_prefix _ _).isInfix.trans (List.dropWhile_suffix _).isInfix

theorem isTrimmed_trim (cs : List Char) : IsTrimmed (trim cs) := by
  constructor
  · intro c hc
    -- The first character of what is left is the first one that is not blank.
    have hprefix : trim cs <+: cs.dropWhile isBlank := List.rdropWhile_prefix _ _
    have hne : trim cs ≠ [] := by
      rintro h
      rw [h] at hc
      simp at hc
    have hhead : (cs.dropWhile isBlank).head? = some c := by
      obtain ⟨rest, hrest⟩ := hprefix
      rw [← hrest, List.head?_append_of_ne_nil _ hne]
      exact hc
    have hnot := List.head?_dropWhile_not isBlank cs
    rw [hhead] at hnot
    exact hnot
  · intro c hc
    have hne : trim cs ≠ [] := by
      rintro h
      rw [h] at hc
      simp at hc
    have hlast := List.rdropWhile_last_not isBlank (cs.dropWhile isBlank) hne
    rw [Option.mem_def, List.getLast?_eq_some_getLast hne, Option.some.injEq] at hc
    rw [← hc]
    exact Bool.eq_false_iff.mpr hlast

theorem trim_eq_self {cs : List Char} (h : IsTrimmed cs) : trim cs = cs := by
  have hhead : cs.dropWhile isBlank = cs := by
    cases cs with
    | nil => rfl
    | cons c cs => rw [List.dropWhile_cons_of_neg (by simpa using h.head c rfl)]
  unfold trim
  rw [hhead, dropTrailing_eq_rdropWhile, List.rdropWhile_eq_self_iff]
  intro hne
  have := h.last _ (List.getLast?_eq_some_getLast hne)
  rw [this]
  exact Bool.false_ne_true

instance (cs : List Char) : Decidable (IsTrimmed cs) :=
  decidable_of_iff (trim cs = cs) ⟨fun h => h ▸ isTrimmed_trim cs, trim_eq_self⟩

theorem trimmed_trimmed (s : String) : trimmed (trimmed s) = trimmed s := by
  rw [trimmed, trimmed, String.toList_ofList, trim_eq_self (isTrimmed_trim _)]

/-- Characters that are not blank can be put behind a trimmed text. -/
theorem IsTrimmed.append {cs ds : List Char} (h : IsTrimmed cs)
    (hds : ∀ d ∈ ds, isBlank d = false) : IsTrimmed (cs ++ ds) := by
  constructor
  · intro c hc
    rw [List.head?_append] at hc
    cases hcs : cs.head? with
    | some a =>
      rw [hcs] at hc
      exact h.head c (by rw [hcs]; exact hc)
    | none =>
      rw [hcs] at hc
      exact hds c (List.mem_of_mem_head? hc)
  · intro c hc
    rw [List.getLast?_append] at hc
    cases hl : ds.getLast? with
    | some a =>
      rw [hl] at hc
      exact hds c (List.mem_of_mem_getLast? (by rw [hl]; exact hc))
    | none =>
      rw [hl] at hc
      exact h.last c hc

/-! ### Tidy text -/

/-- Whether a character may stand in front of another one: a blank may not in front of a line
feed. -/
def MayPrecede (a b : Char) : Prop :=
  ¬(isBlank a = true ∧ b = '\n')

/-- Whether a text is trimmed and so are the ends of its lines. -/
structure IsTidy (cs : List Char) : Prop where
  trimmed : IsTrimmed cs
  lines : cs.IsChain MayPrecede

theorem dropLineEnds_cons (c : Char) (cs : List Char) :
    dropLineEnds (c :: cs) = absorbBlank c (dropLineEnds cs) := by
  unfold dropLineEnds
  rw [List.foldr_cons]

theorem isChain_absorbBlank (c : Char) {rest : List Char} (h : rest.IsChain MayPrecede) :
    (absorbBlank c rest).IsChain MayPrecede := by
  unfold absorbBlank
  split_ifs with hc
  · split
    · exact h
    · -- The blank stays, as the rest does not begin with a line feed.
      rename_i hrest
      refine List.IsChain.cons h ?_
      rintro d hd ⟨-, rfl⟩
      cases rest with
      | nil => simp at hd
      | cons e rest =>
        rw [List.head?_cons, Option.mem_def, Option.some.injEq] at hd
        exact hrest rest (by rw [hd])
  · exact List.IsChain.cons h fun d _ hd => hc hd.1

theorem isChain_dropLineEnds (cs : List Char) : (dropLineEnds cs).IsChain MayPrecede := by
  induction cs with
  | nil => exact List.IsChain.nil
  | cons c cs ih => exact isChain_absorbBlank c ih

theorem dropLineEnds_eq_self {cs : List Char} (h : cs.IsChain MayPrecede) :
    dropLineEnds cs = cs := by
  induction cs with
  | nil => rfl
  | cons c cs ih =>
    rw [dropLineEnds_cons, ih h.tail]
    unfold absorbBlank
    split_ifs with hc
    · cases cs with
      | nil => rfl
      | cons d cs =>
        split
        · -- Only a blank in front of a line feed would go.
          rename_i hd
          obtain ⟨rfl, -⟩ := List.cons.inj hd
          exact absurd ⟨hc, rfl⟩ (List.isChain_cons_cons.mp h).1
        · rfl
    · rfl

theorem isTidy_tidy (cs : List Char) : IsTidy (tidy cs) where
  trimmed := isTrimmed_trim _
  lines := by
    -- Neighbours in a trimmed text are neighbours in the whole.
    obtain ⟨front, back, h⟩ := trim_isInfix (dropLineEnds cs)
    have hchain := isChain_dropLineEnds cs
    rw [← h] at hchain
    exact hchain.left_of_append.right_of_append

theorem tidy_eq_self {cs : List Char} (h : IsTidy cs) : tidy cs = cs := by
  rw [tidy, dropLineEnds_eq_self h.lines, trim_eq_self h.trimmed]

/-- Tidying twice is tidying once. -/
theorem tidy_tidy (cs : List Char) : tidy (tidy cs) = tidy cs :=
  tidy_eq_self (isTidy_tidy cs)

/-! ### Squeezed text -/

/-- Whether two characters are not both spaces. -/
def NotSpaces (a b : Char) : Prop :=
  ¬(a = ' ' ∧ b = ' ')

/-- Whether every run of a class is one space. -/
structure IsSqueezed (p : Char → Bool) (cs : List Char) : Prop where
  spaces : ∀ c ∈ cs, p c = true → c = ' '
  apart : cs.IsChain NotSpaces

theorem IsSqueezed.of_isInfix {p : Char → Bool} {cs ds : List Char} (h : IsSqueezed p ds)
    (hcs : cs <:+: ds) : IsSqueezed p cs :=
  ⟨fun c hc => h.spaces c (hcs.subset hc), h.apart.infix hcs⟩

theorem squeeze_cons (p : Char → Bool) (c : Char) (cs : List Char) :
    squeeze p (c :: cs) = squeezeCons p c (squeeze p cs) := rfl

/-- What `squeezeCons` gives: the rest under a space of its run, or one more character. -/
theorem squeezeCons_cases (p : Char → Bool) (c : Char) (rest : List Char) :
    (p c = true ∧ squeezeCons p c rest = rest ∧ rest.head? = some ' ') ∨
    (p c = true ∧ squeezeCons p c rest = ' ' :: rest ∧ rest.head? ≠ some ' ') ∨
    (p c = false ∧ squeezeCons p c rest = c :: rest) := by
  unfold squeezeCons
  split_ifs with hc
  · split
    · exact Or.inl ⟨hc, rfl, rfl⟩
    · rename_i hrest
      refine Or.inr (Or.inl ⟨hc, rfl, ?_⟩)
      intro hhead
      obtain ⟨after, rfl⟩ := List.head?_eq_some_iff.mp hhead
      exact hrest after rfl
  · exact Or.inr (Or.inr ⟨Bool.eq_false_iff.mpr hc, rfl⟩)

theorem isSqueezed_squeezeCons {p : Char → Bool} (hp : p ' ' = true) (c : Char)
    {rest : List Char} (h : IsSqueezed p rest) : IsSqueezed p (squeezeCons p c rest) := by
  rcases squeezeCons_cases p c rest with ⟨-, heq, -⟩ | ⟨-, heq, hhead⟩ | ⟨hc, heq⟩
  · rw [heq]
    exact h
  · rw [heq]
    constructor
    · intro d hd hpd
      rcases List.mem_cons.mp hd with rfl | hd
      · rfl
      · exact h.spaces d hd hpd
    · refine List.IsChain.cons h.apart ?_
      rintro d hd ⟨-, rfl⟩
      exact hhead hd
  · rw [heq]
    constructor
    · intro d hd hpd
      rcases List.mem_cons.mp hd with rfl | hd
      · rw [hc] at hpd
        exact absurd hpd Bool.false_ne_true
      · exact h.spaces d hd hpd
    · refine List.IsChain.cons h.apart ?_
      rintro d - ⟨rfl, -⟩
      rw [hc] at hp
      exact Bool.false_ne_true hp

theorem isSqueezed_squeeze {p : Char → Bool} (hp : p ' ' = true) (cs : List Char) :
    IsSqueezed p (squeeze p cs) := by
  induction cs with
  | nil => exact ⟨by simp [squeeze], List.IsChain.nil⟩
  | cons c cs ih => exact isSqueezed_squeezeCons hp c ih

theorem squeeze_eq_self {p : Char → Bool} {cs : List Char} (h : IsSqueezed p cs) :
    squeeze p cs = cs := by
  induction cs with
  | nil => rfl
  | cons c cs ih =>
    have htail : IsSqueezed p cs :=
      ⟨fun d hd => h.spaces d (List.mem_cons_of_mem _ hd), h.apart.tail⟩
    rw [squeeze_cons, ih htail]
    rcases squeezeCons_cases p c cs with ⟨hc, -, hhead⟩ | ⟨hc, heq, -⟩ | ⟨-, heq⟩
    · -- Two spaces side by side: the text is not squeezed.
      obtain ⟨after, rfl⟩ := List.head?_eq_some_iff.mp hhead
      have hspace := h.spaces c (List.mem_cons_self ..) hc
      exact absurd ⟨hspace, rfl⟩ (List.isChain_cons_cons.mp h.apart).1
    · rw [heq, h.spaces c (List.mem_cons_self ..) hc]
    · exact heq

theorem getLast?_squeeze {p : Char → Bool} {cs : List Char}
    (h : ∀ c ∈ cs.getLast?, p c = false) : (squeeze p cs).getLast? = cs.getLast? := by
  induction cs with
  | nil => rfl
  | cons c cs ih =>
    cases cs with
    | nil =>
      have hc : p c = false := h c rfl
      show (squeezeCons p c []).getLast? = _
      unfold squeezeCons
      rw [if_neg (by simp [hc])]
    | cons d ds =>
      have hlast := ih (by simpa [List.getLast?_cons_cons] using h)
      have hne : squeeze p (d :: ds) ≠ [] := by
        intro hnil
        rw [hnil, List.getLast?_eq_some_getLast (List.cons_ne_nil d ds)] at hlast
        simp at hlast
      obtain ⟨e, es, hes⟩ := List.exists_cons_of_ne_nil hne
      rw [squeeze_cons, List.getLast?_cons_cons, ← hlast]
      rcases squeezeCons_cases p c (squeeze p (d :: ds)) with
        ⟨-, heq, -⟩ | ⟨-, heq, -⟩ | ⟨-, heq⟩
      · rw [heq]
      · rw [heq, hes, List.getLast?_cons_cons]
      · rw [heq, hes, List.getLast?_cons_cons]

/-! ### Text on one line -/

/-- Whether a text is trimmed and its blanks are single spaces. -/
structure IsSingleLine (cs : List Char) : Prop where
  trimmed : IsTrimmed cs
  squeezed : IsSqueezed isBlank cs

theorem IsSingleLine.isTidy {cs : List Char} (h : IsSingleLine cs) : IsTidy cs := by
  refine ⟨h.trimmed, ?_⟩
  have hfeed : ∀ c ∈ cs, c ≠ '\n' := by
    rintro c hc rfl
    exact absurd (h.squeezed.spaces _ hc (by decide)) (by decide)
  refine (List.isChain_iff_getElem.mpr ?_)
  rintro i hi ⟨-, hb⟩
  exact hfeed _ (List.getElem_mem _) hb

theorem isSingleLine_singleLine (cs : List Char) : IsSingleLine (singleLine cs) := by
  have htidy := isTidy_tidy cs
  refine ⟨⟨?_, ?_⟩, isSqueezed_squeeze (by decide) _⟩
  · intro c hc
    unfold singleLine at hc
    cases hcs : tidy cs with
    | nil =>
      rw [hcs] at hc
      simp [squeeze] at hc
    | cons d ds =>
      have hd : isBlank d = false := htidy.trimmed.head d (by rw [hcs]; rfl)
      rw [hcs, squeeze_cons] at hc
      unfold squeezeCons at hc
      rw [if_neg (by simp [hd]), List.head?_cons, Option.mem_def, Option.some.injEq] at hc
      rw [← hc]
      exact hd
  · intro c hc
    rw [singleLine, getLast?_squeeze htidy.trimmed.last] at hc
    exact htidy.trimmed.last c hc

theorem singleLine_eq_self {cs : List Char} (h : IsSingleLine cs) : singleLine cs = cs := by
  rw [singleLine, tidy_eq_self h.isTidy, squeeze_eq_self h.squeezed]

/-- Putting a text on one line twice is doing so once. -/
theorem singleLine_singleLine (cs : List Char) : singleLine (singleLine cs) = singleLine cs :=
  singleLine_eq_self (isSingleLine_singleLine cs)

/-- Characters that are not blank can be put behind a line. -/
theorem IsSingleLine.append {cs ds : List Char} (h : IsSingleLine cs)
    (hds : ∀ d ∈ ds, isBlank d = false) : IsSingleLine (cs ++ ds) := by
  have hspace : ∀ d ∈ ds, d ≠ ' ' := by
    rintro d hd rfl
    exact absurd (hds _ hd) (by decide)
  refine ⟨h.trimmed.append hds, ?_, ?_⟩
  · intro c hc hb
    rcases List.mem_append.mp hc with hc | hc
    · exact h.squeezed.spaces c hc hb
    · rw [hds c hc] at hb
      exact absurd hb Bool.false_ne_true
  · rw [List.isChain_append]
    refine ⟨h.squeezed.apart, List.isChain_iff_getElem.mpr ?_, ?_⟩
    · rintro i hi ⟨ha, -⟩
      exact hspace _ (List.getElem_mem _) ha
    · rintro a - b hb ⟨-, rfl⟩
      exact hspace _ (List.mem_of_mem_head? hb) rfl

theorem isSingleLine_of_forall_not_blank {cs : List Char} (h : ∀ c ∈ cs, isBlank c = false) :
    IsSingleLine cs := by
  have hnil : IsSingleLine [] := ⟨⟨by simp, by simp⟩, ⟨by simp, List.IsChain.nil⟩⟩
  simpa using hnil.append h

/-! ### Text that says something -/

theorem lowerChar_of_isBlank {c : Char} (h : isBlank c = true) : lowerChar c = [c] := by
  unfold lowerChar
  have hletter : ¬ ('A' ≤ c ∧ c ≤ 'Z') := by
    rintro ⟨hlow, hhigh⟩
    have hlow' : 65 ≤ c.toNat := hlow
    have hhigh' : c.toNat ≤ 90 := hhigh
    simp [isBlank] at h
    omega
  have hkelvin : c ≠ '\u212A' := by
    rintro rfl
    exact absurd h (by decide)
  have hdotted : c ≠ '\u0130' := by
    rintro rfl
    exact absurd h (by decide)
  rw [if_neg hletter, if_neg hkelvin, if_neg hdotted]

/-- A placeholder has no blanks. -/
theorem not_isBlank_of_placeholder {cs : List Char}
    (h : String.ofList (lower cs) ∈ placeholders) : ∀ c ∈ cs, isBlank c = false := by
  have hplaceholders : placeholders.all (fun s => s.toList.all fun c => !isBlank c) = true := by
    decide
  simp only [List.all_eq_true, Bool.not_eq_true'] at hplaceholders
  intro c hc
  by_contra hblank
  rw [Bool.not_eq_false] at hblank
  have hlower : c ∈ lower cs := by
    refine List.mem_flatMap.mpr ⟨c, hc, ?_⟩
    rw [lowerChar_of_isBlank hblank]
    exact List.mem_singleton_self c
  have hnot := hplaceholders _ h c (by rwa [String.toList_ofList])
  rw [hblank] at hnot
  exact Bool.false_ne_true hnot.symm

theorem space_mem_squeeze {p : Char → Bool} {c : Char} {cs : List Char} (hc : c ∈ cs)
    (hp : p c = true) : ' ' ∈ squeeze p cs := by
  induction cs with
  | nil => exact absurd hc List.not_mem_nil
  | cons d cs ih =>
    rw [squeeze_cons]
    rcases List.mem_cons.mp hc with rfl | hc
    · rcases squeezeCons_cases p c (squeeze p cs) with ⟨-, heq, hhead⟩ | ⟨-, heq, -⟩ | ⟨hnot, -⟩
      · rw [heq]
        exact List.mem_of_mem_head? hhead
      · rw [heq]
        exact List.mem_cons_self ..
      · rw [hp] at hnot
        exact absurd hnot (by decide)
    · rcases squeezeCons_cases p d (squeeze p cs) with ⟨-, heq, -⟩ | ⟨-, heq, -⟩ | ⟨-, heq⟩
      · rw [heq]
        exact ih hc
      · rw [heq]
        exact List.mem_cons_self ..
      · rw [heq]
        exact List.mem_cons_of_mem d (ih hc)

/-- Squeezing blanks neither makes a placeholder nor spoils one. -/
theorem squeeze_mem_placeholders_iff (cs : List Char) :
    String.ofList (lower (squeeze isBlank cs)) ∈ placeholders ↔
      String.ofList (lower cs) ∈ placeholders := by
  by_cases hblank : ∃ c ∈ cs, isBlank c = true
  · obtain ⟨c, hc, hblank⟩ := hblank
    constructor
    · intro h
      have hspace := not_isBlank_of_placeholder h _ (space_mem_squeeze hc hblank)
      exact absurd hspace (by decide)
    · intro h
      rw [not_isBlank_of_placeholder h c hc] at hblank
      exact absurd hblank (by decide)
  · have hnone : ∀ c ∈ cs, isBlank c = false := by
      intro c hc
      by_contra hb
      exact hblank ⟨c, hc, by rwa [Bool.not_eq_false] at hb⟩
    rw [squeeze_eq_self (isSingleLine_of_forall_not_blank hnone).squeezed]

/-- A tidied text says something iff the text does. -/
theorem isMeaningful_tidy (s : String) :
    isMeaningful (String.ofList (tidy s.toList)) = isMeaningful s := by
  unfold isMeaningful
  rw [String.toList_ofList, tidy_tidy]

/-- A text on one line says something iff the text does. -/
theorem isMeaningful_singleLine (s : String) :
    isMeaningful (String.ofList (singleLine s.toList)) = isMeaningful s := by
  unfold isMeaningful
  rw [String.toList_ofList, tidy_eq_self (isSingleLine_singleLine _).isTidy, singleLine]
  simp only [squeeze_mem_placeholders_iff]

end Triage.Text
