import Triage.Proofs.Text.Tidy
import Mathlib.Data.List.SplitBy

/-!
# Runs of blanks

A text is an alternation of maximal runs of blanks and of other characters. Tidying drops the runs
at its ends, and of every other run of blanks with line feeds it leaves one of these and what stands
behind the last one; nothing else changes (`tidy_eq_flatMap_runs`).
-/

namespace Triage.Text

/-- The maximal runs of blanks and of other characters. -/
def runs (cs : List Char) : List (List Char) :=
  cs.splitBy fun a b => isBlank a == isBlank b

/-- What tidying leaves of a run: of one with line feeds, a line feed and what stands behind the
last one. -/
def tidyRun (run : List Char) : List Char :=
  if '\n' ∈ run then '\n' :: run.rtakeWhile (· ≠ '\n') else run

/-! ### One run -/

theorem tidyRun_eq_self {run : List Char} (h : '\n' ∉ run) : tidyRun run = run :=
  if_neg h

theorem tidyRun_eq_cons {run : List Char} (h : '\n' ∈ run) :
    tidyRun run = '\n' :: run.rtakeWhile (· ≠ '\n') :=
  if_pos h

/-- A line feed further on decides what is left of a run. -/
theorem tidyRun_cons_of_mem {run : List Char} (h : '\n' ∈ run) (c : Char) :
    tidyRun (c :: run) = tidyRun run := by
  have hstop : ¬ (run.reverse.takeWhile (· ≠ '\n')).length = run.reverse.length := by
    intro hlength
    have hall := List.takeWhile_eq_self_iff.mp
      ((List.takeWhile_prefix _).eq_of_length hlength) '\n' (List.mem_reverse.mpr h)
    simp at hall
  rw [tidyRun_eq_cons h, tidyRun_eq_cons (List.mem_cons_of_mem c h)]
  unfold List.rtakeWhile
  rw [List.reverse_cons, List.takeWhile_append, if_neg hstop]

/-- A line feed at the beginning leaves all of a run without other ones. -/
theorem tidyRun_cons_of_notMem {run : List Char} (h : '\n' ∉ run) (c : Char) :
    tidyRun (c :: run) = c :: run := by
  by_cases hc : '\n' = c
  · have hpass : ∀ d ∈ run.reverse, (decide (d ≠ '\n')) = true := by
      intro d hd
      refine decide_eq_true ?_
      rintro rfl
      exact h (List.mem_reverse.mp hd)
    rw [← hc, tidyRun_eq_cons (List.mem_cons_self ..)]
    unfold List.rtakeWhile
    rw [List.reverse_cons, List.takeWhile_append_of_pos hpass]
    simp
  · exact tidyRun_eq_self (List.not_mem_cons_of_ne_of_not_mem hc h)

/-! ### A run in front of a text -/

theorem absorbBlank_of_not_isBlank {c : Char} (hc : isBlank c = false) (rest : List Char) :
    absorbBlank c rest = c :: rest := by
  unfold absorbBlank
  rw [if_neg (by simp [hc])]

/-- A character stays in front of a text that does not begin with a line feed. -/
theorem absorbBlank_of_head? (c : Char) {rest : List Char} (h : rest.head? ≠ some '\n') :
    absorbBlank c rest = c :: rest := by
  unfold absorbBlank
  split_ifs
  · split
    · exact absurd rfl h
    · rfl
  · rfl

theorem absorbBlank_feed {c : Char} (hc : isBlank c = true) (rest : List Char) :
    absorbBlank c ('\n' :: rest) = '\n' :: rest := by
  unfold absorbBlank
  rw [if_pos hc]
  rfl

theorem head?_dropLineEnds {c : Char} (hc : isBlank c = false) (rest : List Char) :
    (dropLineEnds (c :: rest)).head? = some c := by
  rw [dropLineEnds_cons, absorbBlank_of_not_isBlank hc, List.head?_cons]

/-- Nothing is dropped of characters that are no blanks. -/
theorem dropLineEnds_append_of_forall_not {run : List Char}
    (hrun : ∀ c ∈ run, isBlank c = false) (rest : List Char) :
    dropLineEnds (run ++ rest) = run ++ dropLineEnds rest := by
  induction run with
  | nil => rfl
  | cons c run ih =>
    obtain ⟨hc, hrun⟩ := List.forall_mem_cons.mp hrun
    rw [List.cons_append, dropLineEnds_cons, ih hrun, absorbBlank_of_not_isBlank hc,
      List.cons_append]

/-- What is left of a run of blanks in front of a text that does not begin with a line feed. -/
theorem dropLineEnds_append_of_forall {run rest : List Char}
    (hrun : ∀ c ∈ run, isBlank c = true) (hrest : (dropLineEnds rest).head? ≠ some '\n') :
    dropLineEnds (run ++ rest) = tidyRun run ++ dropLineEnds rest := by
  induction run with
  | nil => rfl
  | cons c run ih =>
    obtain ⟨hc, hrun⟩ := List.forall_mem_cons.mp hrun
    rw [List.cons_append, dropLineEnds_cons, ih hrun]
    by_cases hfeed : '\n' ∈ run
    · -- The character stands in front of the line feed that is left.
      rw [tidyRun_cons_of_mem hfeed, tidyRun_eq_cons hfeed, List.cons_append, absorbBlank_feed hc]
    · rw [tidyRun_cons_of_notMem hfeed, tidyRun_eq_self hfeed, absorbBlank_of_head? c,
        List.cons_append]
      cases run with
      | nil => exact hrest
      | cons d ds =>
        rintro hd
        exact hfeed (Option.some.inj hd ▸ List.mem_cons_self ..)

/-- The characters of a run are all blanks or none is. -/
theorem isBlank_eq_of_isChain {run : List Char} (hne : run ≠ [])
    (hrun : run.IsChain fun a b => (isBlank a == isBlank b) = true) :
    ∀ c ∈ run, isBlank c = isBlank (run.getLast hne) := by
  induction run with
  | nil => exact absurd rfl hne
  | cons c run ih =>
    cases run with
    | nil => simp
    | cons d ds =>
      have htail := ih (List.cons_ne_nil d ds) hrun.tail
      have hcd : isBlank c = isBlank d := by simpa using (List.isChain_cons_cons.mp hrun).1
      rw [List.getLast_cons (List.cons_ne_nil d ds)]
      exact List.forall_mem_cons.mpr ⟨hcd.trans (htail d (List.mem_cons_self ..)), htail⟩

/-- What is left of a run in front of a text that does not go on with it. -/
theorem dropLineEnds_run_append {run rest : List Char} (hne : run ≠ [])
    (hrun : run.IsChain fun a b => (isBlank a == isBlank b) = true)
    (hrest : ∀ d ∈ rest.head?, (isBlank (run.getLast hne) == isBlank d) = false) :
    dropLineEnds (run ++ rest) = tidyRun run ++ dropLineEnds rest := by
  have hsame := isBlank_eq_of_isChain hne hrun
  cases hkind : isBlank (run.getLast hne) with
  | true =>
    refine dropLineEnds_append_of_forall (fun c hc => (hsame c hc).trans hkind) ?_
    cases rest with
    | nil => simp [dropLineEnds]
    | cons d ds =>
      have hd : isBlank d = false := by simpa [hkind] using hrest d rfl
      rw [head?_dropLineEnds hd]
      rintro heq
      rw [Option.some.inj heq] at hd
      exact absurd hd (by decide)
  | false =>
    have hnot : ∀ c ∈ run, isBlank c = false := fun c hc => (hsame c hc).trans hkind
    have hfeed : '\n' ∉ run := fun hmem => absurd (hnot _ hmem) (by decide)
    rw [tidyRun_eq_self hfeed, dropLineEnds_append_of_forall_not hnot]

/-! ### All runs -/

/-- What is left of runs that follow one another. -/
theorem dropLineEnds_flatten {rs : List (List Char)} (hnil : [] ∉ rs)
    (hrun : ∀ run ∈ rs, run.IsChain fun a b => (isBlank a == isBlank b) = true)
    (hborder : rs.IsChain fun front back =>
      ∃ hfront hback, (isBlank (front.getLast hfront) == isBlank (back.head hback)) = false) :
    dropLineEnds rs.flatten = rs.flatMap tidyRun := by
  induction rs with
  | nil => rfl
  | cons run rs ih =>
    obtain ⟨hne, hnil⟩ := not_or.mp (mt List.mem_cons.mpr hnil)
    obtain ⟨hhead, hrun⟩ := List.forall_mem_cons.mp hrun
    rw [List.flatten_cons, List.flatMap_cons, dropLineEnds_run_append (Ne.symm hne) hhead,
      ih hnil hrun hborder.tail]
    intro d hd
    cases rs with
    | nil => simp at hd
    | cons next rs =>
      obtain ⟨hfront, hback, hdiffer⟩ := (List.isChain_cons_cons.mp hborder).1
      obtain ⟨e, es, rfl⟩ := List.exists_cons_of_ne_nil hback
      obtain rfl : e = d := by simpa using hd
      exact hdiffer

/-- Run by run, what dropping the ends of the lines leaves of a text. -/
theorem dropLineEnds_eq_flatMap_runs (cs : List Char) :
    dropLineEnds cs = (runs cs).flatMap tidyRun := by
  have hflatten : (runs cs).flatten = cs := List.flatten_splitBy _ _
  have hleft := dropLineEnds_flatten (List.nil_notMem_splitBy _ cs)
    (fun run h => List.isChain_of_mem_splitBy h)
    (List.isChain_getLast_head_splitBy (fun a b => isBlank a == isBlank b) cs)
  change dropLineEnds (runs cs).flatten = (runs cs).flatMap tidyRun at hleft
  rwa [hflatten] at hleft

/-! ### Tidied text -/

theorem dropWhile_dropLineEnds (cs : List Char) :
    (dropLineEnds cs).dropWhile isBlank = dropLineEnds (cs.dropWhile isBlank) := by
  induction cs with
  | nil => rfl
  | cons c cs ih =>
    rw [dropLineEnds_cons]
    cases hc : isBlank c with
    | true =>
      rw [List.dropWhile_cons_of_pos hc, ← ih]
      -- Whether the blank is dropped already or not makes no difference.
      unfold absorbBlank
      rw [if_pos hc]
      split
      · rfl
      · rw [List.dropWhile_cons_of_pos hc]
    | false =>
      rw [absorbBlank_of_not_isBlank hc, List.dropWhile_cons_of_neg (by simp [hc]),
        List.dropWhile_cons_of_neg (by simp [hc]), dropLineEnds_cons,
        absorbBlank_of_not_isBlank hc]

theorem absorbBlank_append (c : Char) {front : List Char} (hne : front ≠ [])
    (rest : List Char) : absorbBlank c (front ++ rest) = absorbBlank c front ++ rest := by
  obtain ⟨d, ds, rfl⟩ := List.exists_cons_of_ne_nil hne
  cases hc : isBlank c with
  | false => simp only [absorbBlank_of_not_isBlank hc, List.cons_append]
  | true =>
    by_cases hd : d = '\n'
    · rw [hd, List.cons_append, absorbBlank_feed hc, absorbBlank_feed hc, List.cons_append]
    · have hstay : ∀ after, absorbBlank c (d :: after) = c :: d :: after := fun after =>
        absorbBlank_of_head? c (by simpa using hd)
      simp only [List.cons_append, hstay]

theorem getLast?_absorbBlank (c : Char) {rest : List Char} (hne : rest ≠ []) :
    (absorbBlank c rest).getLast? = rest.getLast? := by
  obtain ⟨d, ds, rfl⟩ := List.exists_cons_of_ne_nil hne
  unfold absorbBlank
  split_ifs
  · split
    · rfl
    · rw [List.getLast?_cons_cons]
  · rw [List.getLast?_cons_cons]

/-- A last character that is no blank stays the last one. -/
theorem getLast?_dropLineEnds {d : Char} (hd : isBlank d = false) (cs : List Char) :
    (dropLineEnds (cs ++ [d])).getLast? = some d := by
  induction cs with
  | nil => rw [List.nil_append, dropLineEnds_cons, absorbBlank_of_not_isBlank hd]; rfl
  | cons c cs ih =>
    have hne : dropLineEnds (cs ++ [d]) ≠ [] := fun h => by simp [h] at ih
    rw [List.cons_append, dropLineEnds_cons, getLast?_absorbBlank c hne, ih]

/-- A character that is no blank divides a text into parts whose line ends do not meet. -/
theorem dropLineEnds_concat_append {d : Char} (hd : isBlank d = false) (cs rest : List Char) :
    dropLineEnds (cs ++ [d] ++ rest) = dropLineEnds (cs ++ [d]) ++ dropLineEnds rest := by
  induction cs with
  | nil =>
    rw [List.nil_append, List.singleton_append, dropLineEnds_cons, dropLineEnds_cons,
      absorbBlank_of_not_isBlank hd, absorbBlank_of_not_isBlank hd]
    rfl
  | cons c cs ih =>
    have hne : dropLineEnds (cs ++ [d]) ≠ [] := fun h => by
      simpa [h] using getLast?_dropLineEnds hd cs
    rw [List.cons_append, List.cons_append, dropLineEnds_cons, dropLineEnds_cons, ih,
      absorbBlank_append c hne]

theorem isBlank_of_mem_dropLineEnds {cs : List Char} (h : ∀ c ∈ cs, isBlank c = true) :
    ∀ c ∈ dropLineEnds cs, isBlank c = true := by
  induction cs with
  | nil => simp [dropLineEnds]
  | cons c cs ih =>
    obtain ⟨hc, hcs⟩ := List.forall_mem_cons.mp h
    have hboth : ∀ d ∈ c :: dropLineEnds cs, isBlank d = true :=
      List.forall_mem_cons.mpr ⟨hc, ih hcs⟩
    rw [dropLineEnds_cons]
    unfold absorbBlank
    rw [if_pos hc]
    split
    · exact ih hcs
    · exact hboth

theorem rdropWhile_dropLineEnds (cs : List Char) :
    (dropLineEnds cs).rdropWhile isBlank = dropLineEnds (cs.rdropWhile isBlank) := by
  have hback : ∀ c ∈ dropLineEnds (cs.rtakeWhile isBlank), isBlank c = true :=
    isBlank_of_mem_dropLineEnds fun c hc => List.mem_rtakeWhile_imp hc
  have hcs : cs.rdropWhile isBlank ++ cs.rtakeWhile isBlank = cs :=
    List.rdropWhile_append_rtakeWhile
  rcases List.eq_nil_or_concat (cs.rdropWhile isBlank) with hnil | ⟨front, d, hfront⟩
  · rw [hnil, List.nil_append] at hcs
    rw [hnil, ← hcs]
    exact List.rdropWhile_eq_nil_iff.mpr hback
  · have hd : isBlank d = false := by
      have hlast := List.rdropWhile_last_not isBlank cs (by simp [hfront])
      simpa [hfront] using hlast
    have hlast := getLast?_dropLineEnds hd front
    rw [hfront, List.concat_eq_append] at hcs
    rw [hfront, List.concat_eq_append]
    rw [← hcs, dropLineEnds_concat_append hd]
    unfold List.rdropWhile
    rw [List.reverse_append, List.dropWhile_append_of_pos fun c hc =>
      hback c (List.mem_reverse.mp hc)]
    change (dropLineEnds (front ++ [d])).rdropWhile isBlank = _
    rw [List.rdropWhile_eq_self_iff]
    intro hne
    rw [List.getLast?_eq_some_getLast hne, Option.some.injEq] at hlast
    rw [hlast, hd]
    exact Bool.false_ne_true

theorem trim_dropLineEnds (cs : List Char) : trim (dropLineEnds cs) = dropLineEnds (trim cs) := by
  unfold trim
  rw [dropTrailing_eq_rdropWhile, dropTrailing_eq_rdropWhile, dropWhile_dropLineEnds,
    rdropWhile_dropLineEnds]

/-- A tidied text is what is left of the runs between its ends. -/
theorem tidy_eq_flatMap_runs (cs : List Char) : tidy cs = (runs (trim cs)).flatMap tidyRun := by
  rw [tidy, trim_dropLineEnds, dropLineEnds_eq_flatMap_runs]

end Triage.Text
