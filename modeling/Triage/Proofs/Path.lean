import Triage.Path
import Triage.Proofs.Text.Tidy

/-!
# Relative paths

What goes from the front of a path is marks of the root, `./` and `/`, as many as there are
(`exists_rootMarks`, `dropRoot_append`). The blanks in front of the marks go before them, but those
behind them stay. So making a path relative once more changes it iff a blank follows marks of the
root (`relative_relative_iff`).
-/

namespace Triage.Path

/-! ### Marks of the root -/

/-- The marks of the root of a repository. -/
def rootMarks : List (List Char) :=
  [['.', '/'], ['/']]

variable {marks : List (List Char)}

/-- Marks in front of a path make no difference. -/
theorem dropRoot_append (h : ∀ m ∈ marks, m ∈ rootMarks) (cs : List Char) :
    dropRoot (marks.flatten ++ cs) = dropRoot cs := by
  induction marks with
  | nil => rfl
  | cons m marks ih =>
    obtain ⟨hm, hmarks⟩ := List.forall_mem_cons.mp h
    have hstep : dropRoot (m ++ (marks.flatten ++ cs)) = dropRoot (marks.flatten ++ cs) := by
      rcases List.mem_cons.mp hm with rfl | hm
      · rfl
      · obtain rfl := List.mem_singleton.mp hm
        rfl
    rw [List.flatten_cons, List.append_assoc, hstep, ih hmarks]

/-- Only marks go. -/
theorem exists_rootMarks (cs : List Char) :
    ∃ marks : List (List Char), (∀ m ∈ marks, m ∈ rootMarks) ∧
      cs = marks.flatten ++ dropRoot cs := by
  fun_induction dropRoot cs with
  | case1 rest ih =>
    obtain ⟨marks, hmarks, hrest⟩ := ih
    refine ⟨['.', '/'] :: marks, List.forall_mem_cons.mpr ⟨by decide, hmarks⟩, ?_⟩
    rw [List.flatten_cons, List.append_assoc, ← hrest]
    rfl
  | case2 rest ih =>
    obtain ⟨marks, hmarks, hrest⟩ := ih
    refine ⟨['/'] :: marks, List.forall_mem_cons.mpr ⟨by decide, hmarks⟩, ?_⟩
    rw [List.flatten_cons, List.append_assoc, ← hrest]
    rfl
  | case3 cs => exact ⟨[], List.forall_mem_nil _, rfl⟩

theorem dropRoot_suffix (cs : List Char) : dropRoot cs <:+ cs := by
  obtain ⟨marks, -, hcs⟩ := exists_rootMarks cs
  exact ⟨marks.flatten, hcs.symm⟩

theorem dropRoot_dropRoot (cs : List Char) : dropRoot (dropRoot cs) = dropRoot cs := by
  obtain ⟨marks, hmarks, hcs⟩ := exists_rootMarks cs
  conv_rhs => rw [hcs, dropRoot_append hmarks]

/-- No mark begins with a blank. -/
theorem dropRoot_cons_of_isBlank {c : Char} (hc : Text.isBlank c = true) (rest : List Char) :
    dropRoot (c :: rest) = c :: rest := by
  have hdot : c ≠ '.' := fun h => absurd hc (h ▸ by decide)
  have hslash : c ≠ '/' := fun h => absurd hc (h ▸ by decide)
  unfold dropRoot
  split
  · rename_i heq
    exact absurd (List.cons.inj heq).1 hdot
  · rename_i heq
    exact absurd (List.cons.inj heq).1 hslash
  · rfl

/-! ### Paths made relative again -/

/-- The end of a trimmed text is trimmed if it does not begin with a blank. -/
theorem isTrimmed_of_suffix {cs ds : List Char} (h : Text.IsTrimmed cs) (hds : ds <:+ cs)
    (hhead : ∀ c ∈ ds.head?, Text.isBlank c = false) : Text.IsTrimmed ds where
  head := hhead
  last := by
    intro c hc
    obtain ⟨front, rfl⟩ := hds
    refine h.last c ?_
    rw [List.getLast?_append, hc]
    rfl

/-- A relative path is made relative at once iff it does not begin with a blank. -/
theorem relative_relative_iff_head (path : String) :
    relative (relative path) = relative path ↔
      ∀ c ∈ (dropRoot (Text.trim path.toList)).head?, Text.isBlank c = false := by
  have hsuffix := dropRoot_suffix (Text.trim path.toList)
  have hagain := dropRoot_dropRoot (Text.trim path.toList)
  unfold relative
  rw [String.toList_ofList, String.ofList_inj]
  generalize dropRoot (Text.trim path.toList) = ds at hsuffix hagain ⊢
  constructor
  · intro hstable c hc
    -- A blank at the beginning would go, and nothing would come for it.
    by_contra hblank
    obtain ⟨rest, rfl⟩ := List.head?_eq_some_iff.mp hc
    have htrim : Text.trim (c :: rest) <:+: rest := by
      unfold Text.trim
      rw [List.dropWhile_cons_of_pos (by simpa using hblank)]
      exact Text.trim_isInfix rest
    have hshort := (dropRoot_suffix (Text.trim (c :: rest))).length_le.trans htrim.length_le
    rw [hstable, List.length_cons] at hshort
    omega
  · intro hhead
    rw [Text.trim_eq_self (isTrimmed_of_suffix (Text.isTrimmed_trim _) hsuffix hhead), hagain]

/-- A path that was made relative stays as it is when it is made relative again iff no blank follows
marks of the root in front of it. -/
theorem relative_relative_iff (path : String) :
    relative (relative path) = relative path ↔
      ∀ (marks : List (List Char)) (c : Char) (rest : List Char), (∀ m ∈ marks, m ∈ rootMarks) →
        Text.trim path.toList = marks.flatten ++ c :: rest → Text.isBlank c = false := by
  rw [relative_relative_iff_head]
  constructor
  · intro hhead marks c rest hmarks hpath
    by_contra hblank
    have hc : Text.isBlank c = true := by simpa using hblank
    refine hblank (hhead c ?_)
    rw [hpath, dropRoot_append hmarks, dropRoot_cons_of_isBlank hc]
    rfl
  · intro hnone c hc
    obtain ⟨marks, hmarks, hpath⟩ := exists_rootMarks (Text.trim path.toList)
    obtain ⟨rest, hrest⟩ := List.head?_eq_some_iff.mp hc
    exact hnone marks c rest hmarks (hrest ▸ hpath)

/-- A blank behind the dot and the slash goes only when the path is made relative again. -/
theorem not_relative_relative_blank :
    relative "./ src/a.py" = " src/a.py" ∧ relative " src/a.py" = "src/a.py" ∧
      relative (relative "./ src/a.py") ≠ relative "./ src/a.py" := by
  have hfirst : relative "./ src/a.py" = " src/a.py" := by decide
  have hsecond : relative " src/a.py" = "src/a.py" := by decide
  refine ⟨hfirst, hsecond, ?_⟩
  rw [hfirst, hsecond]
  decide

end Triage.Path
