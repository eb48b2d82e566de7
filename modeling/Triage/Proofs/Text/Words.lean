import Triage.Proofs.Text.Tidy

/-!
# Words

A view of texts sees a class of characters as gaps if what it makes of a text is what it makes of
both sides of any such character. Neither trimming nor squeezing the gaps changes what such a view
sees, and neither does putting a text on one line if blanks are gaps (`SeesGaps.view_singleLine`).
The pieces between the gaps are such a view, and make up a squeezed text
(`IsSqueezed.eq_intercalate_pieces`). Hence a text on one line is its words with single spaces
between them (`singleLine_eq_intercalate_words`).
-/

namespace Triage.Text

variable {α : Type} {p : Char → Bool}

/-! ### Views that see gaps -/

/-- Whether a view of texts sees the characters of a class as gaps. -/
structure SeesGaps (p : Char → Bool) (view : List Char → List α) : Prop where
  nil : view [] = []
  gap : ∀ {b : Char}, p b = true → ∀ cs rest, view (cs ++ b :: rest) = view cs ++ view rest

namespace SeesGaps

variable {view : List Char → List α}

theorem view_cons (h : SeesGaps p view) {b : Char} (hb : p b = true) (rest : List Char) :
    view (b :: rest) = view rest := by
  have hgap := h.gap hb [] rest
  rwa [List.nil_append, h.nil, List.nil_append] at hgap

theorem view_concat (h : SeesGaps p view) {b : Char} (hb : p b = true) (cs : List Char) :
    view (cs ++ [b]) = view cs := by
  rw [h.gap hb, h.nil, List.append_nil]

theorem view_dropWhile (h : SeesGaps p view) {q : Char → Bool}
    (hqp : ∀ c, q c = true → p c = true) (cs : List Char) :
    view (cs.dropWhile q) = view cs := by
  induction cs with
  | nil => rfl
  | cons c cs ih =>
    cases hc : q c with
    | true => rw [List.dropWhile_cons_of_pos hc, ih, h.view_cons (hqp c hc)]
    | false => rw [List.dropWhile_cons_of_neg (by simp [hc])]

theorem view_rdropWhile (h : SeesGaps p view) {q : Char → Bool}
    (hqp : ∀ c, q c = true → p c = true) (cs : List Char) :
    view (cs.rdropWhile q) = view cs := by
  induction cs using List.reverseRecOn with
  | nil => rfl
  | append_singleton cs c ih =>
    cases hc : q c with
    | true => rw [List.rdropWhile_concat_pos _ _ _ hc, ih, h.view_concat (hqp c hc)]
    | false => rw [List.rdropWhile_concat_neg _ _ _ (by simp [hc])]

/-- A view sees fewer gaps as gaps, too. -/
theorem mono (h : SeesGaps p view) {q : Char → Bool} (hqp : ∀ c, q c = true → p c = true) :
    SeesGaps q view :=
  ⟨h.nil, fun hb => h.gap (hqp _ hb)⟩

variable (hblank : ∀ c, isBlank c = true → p c = true)

include hblank in
theorem view_trim (h : SeesGaps p view) (cs : List Char) : view (trim cs) = view cs := by
  unfold trim
  rw [dropTrailing_eq_rdropWhile, h.view_rdropWhile hblank, h.view_dropWhile hblank]

include hblank in
theorem view_append_dropLineEnds (h : SeesGaps p view) (front cs : List Char) :
    view (front ++ dropLineEnds cs) = view (front ++ cs) := by
  -- A view may tell what it sees by what stands in front, so that the kept characters go there.
  induction cs generalizing front with
  | nil => rfl
  | cons c cs ih =>
    rw [dropLineEnds_cons]
    have hkeep : view (front ++ c :: dropLineEnds cs) = view (front ++ c :: cs) := by
      have hnext := ih (front ++ [c])
      rwa [List.append_assoc, List.append_assoc] at hnext
    unfold absorbBlank
    split_ifs with hc
    · split
      · -- The blank goes, and the line feed behind it goes on separating what it did.
        rename_i after hafter
        have hfeed : p '\n' = true := hblank _ (by decide)
        rw [← hkeep, hafter, h.gap hfeed, h.gap (hblank c hc), h.view_cons hfeed]
      · exact hkeep
    · exact hkeep

theorem view_append_squeeze (h : SeesGaps p view) (hspace : p ' ' = true) (front cs : List Char) :
    view (front ++ squeeze p cs) = view (front ++ cs) := by
  induction cs generalizing front with
  | nil => rfl
  | cons c cs ih =>
    have htail : view (squeeze p cs) = view cs := ih []
    rw [squeeze_cons]
    rcases squeezeCons_cases p c (squeeze p cs) with ⟨hc, heq, hhead⟩ | ⟨hc, heq, -⟩ | ⟨-, heq⟩
    · obtain ⟨after, hafter⟩ := List.head?_eq_some_iff.mp hhead
      rw [heq, h.gap hc, ← htail, hafter, h.gap hspace, h.view_cons hspace]
    · rw [heq, h.gap hspace, h.gap hc, htail]
    · rw [heq]
      have hnext := ih (front ++ [c])
      rwa [List.append_assoc, List.append_assoc] at hnext

/-- A view that sees blanks as gaps sees a text on one line as it sees the text. -/
theorem view_singleLine (h : SeesGaps isBlank view) (cs : List Char) :
    view (singleLine cs) = view cs := by
  have hsqueeze : view (singleLine cs) = view (tidy cs) :=
    h.view_append_squeeze (by decide) [] (tidy cs)
  have hends : view (dropLineEnds cs) = view cs :=
    h.view_append_dropLineEnds (fun _ hc => hc) [] cs
  rw [hsqueeze, tidy, h.view_trim (fun _ hc => hc), hends]

end SeesGaps

/-- What a class leaves out is a gap to what it keeps. -/
theorem seesGaps_filter (q : Char → Bool) :
    SeesGaps (fun c => !q c) (List.filter q) where
  nil := rfl
  gap hb cs rest := by
    rw [List.filter_append, List.filter_cons_of_neg (by simpa using hb)]

/-! ### Pieces -/

theorem splitAt_eq_splitOnP (p : Char → Bool) (cs : List Char) :
    splitAt p cs = cs.splitOnP p := by
  induction cs with
  | nil => rfl
  | cons c cs ih =>
    obtain ⟨w, ws, hws⟩ := List.exists_cons_of_ne_nil (List.splitOnP_ne_nil p cs)
    have hrest : splitAt p cs = w :: ws := ih.trans hws
    unfold splitAt at hrest ⊢
    rw [List.foldr_cons, hrest, List.splitOnP_cons_eq_if_modifyHead, hws]
    rfl

/-- The maximal runs of characters that are not of a class. -/
def pieces (p : Char → Bool) (cs : List Char) : List (List Char) :=
  (cs.splitOnP p).filter (· ≠ [])

theorem words_eq_pieces (cs : List Char) : words cs = pieces isBlank cs := by
  unfold words pieces
  rw [splitAt_eq_splitOnP]

theorem pieces_of_forall_not {w : List Char} (hw : ∀ c ∈ w, p c = false) (hne : w ≠ []) :
    pieces p w = [w] := by
  unfold pieces
  rw [List.splitOnP_eq_singleton hw]
  simp [hne]

theorem seesGaps_pieces (p : Char → Bool) : SeesGaps p (pieces p) where
  nil := rfl
  gap hb cs rest := by
    unfold pieces
    rw [List.splitOnP_append_cons _ _ hb, List.filter_append]

/-- No piece has a character of the class. -/
theorem not_of_mem_pieces {w : List Char} {cs : List Char} (hw : w ∈ pieces p cs) :
    w ≠ [] ∧ ∀ c ∈ w, p c = false := by
  obtain ⟨hsplit, hne⟩ := List.mem_filter.mp hw
  refine ⟨of_decide_eq_true hne, ?_⟩
  clear hne hw
  induction cs generalizing w with
  | nil =>
    obtain rfl := List.mem_singleton.mp hsplit
    simp
  | cons c cs ih =>
    obtain ⟨v, vs, hvs⟩ := List.exists_cons_of_ne_nil (List.splitOnP_ne_nil p cs)
    rw [List.splitOnP_cons_eq_if_modifyHead, hvs] at hsplit
    split_ifs at hsplit with hc
    · rcases List.mem_cons.mp hsplit with rfl | hmem
      · simp
      · exact ih (by rwa [hvs])
    · rcases List.mem_cons.mp hsplit with rfl | hmem
      · refine List.forall_mem_cons.mpr ⟨Bool.eq_false_iff.mpr hc, ih ?_⟩
        rw [hvs]
        exact List.mem_cons_self ..
      · exact ih (by rw [hvs]; exact List.mem_cons_of_mem _ hmem)

/-! ### Texts made of pieces -/

/-- Between separators that stand alone and not at the end there is something, and only a separator
at the beginning has nothing in front of it. -/
theorem exists_splitOnP_of_isChain {cs : List Char} (hne : cs ≠ [])
    (hchain : cs.IsChain fun a b => ¬(p a = true ∧ p b = true))
    (hlast : ∀ c ∈ cs.getLast?, p c = false) :
    ∃ w ws, cs.splitOnP p = w :: ws ∧ [] ∉ ws ∧ (w = [] → ∃ c ∈ cs.head?, p c = true) := by
  induction cs with
  | nil => exact absurd rfl hne
  | cons c cs ih =>
    rw [List.splitOnP_cons_eq_if_modifyHead]
    cases cs with
    | nil =>
      have hc : p c = false := hlast c rfl
      simp [hc]
    | cons d ds =>
      obtain ⟨w, ws, hws, hnil, hempty⟩ :=
        ih (List.cons_ne_nil d ds) hchain.tail (by simpa [List.getLast?_cons_cons] using hlast)
      rw [hws]
      cases hc : p c with
      | true =>
        refine ⟨[], w :: ws, rfl, ?_, fun _ => ⟨c, rfl, hc⟩⟩
        -- Behind a separator there is no other one.
        rw [List.mem_cons, not_or]
        refine ⟨fun hw => ?_, hnil⟩
        obtain ⟨e, he, hpe⟩ := hempty hw.symm
        obtain rfl : d = e := Option.some.inj he
        exact (List.isChain_cons_cons.mp hchain).1 ⟨hc, hpe⟩
      | false => exact ⟨c :: w, ws, rfl, hnil, fun h => absurd h (List.cons_ne_nil c w)⟩

/-- What separates depends on the characters of a text only. -/
theorem splitOnP_congr {q : Char → Bool} {cs : List Char} (h : ∀ c ∈ cs, p c = q c) :
    cs.splitOnP p = cs.splitOnP q := by
  induction cs with
  | nil => rfl
  | cons c cs ih =>
    obtain ⟨hc, hcs⟩ := List.forall_mem_cons.mp h
    rw [List.splitOnP_cons_eq_if_modifyHead, List.splitOnP_cons_eq_if_modifyHead, hc, ih hcs]

/-- In a squeezed text only spaces separate. -/
theorem IsSqueezed.splitOnP_eq {cs : List Char} (h : IsSqueezed p cs) (hspace : p ' ' = true) :
    cs.splitOnP p = cs.splitOn ' ' := by
  refine splitOnP_congr fun c hc => ?_
  cases hpc : p c with
  | true =>
    rw [h.spaces c hc hpc]
    rfl
  | false =>
    symm
    rw [beq_eq_false_iff_ne]
    rintro rfl
    rw [hspace] at hpc
    exact Bool.false_ne_true hpc.symm

/-- A squeezed text that neither begins nor ends with a gap is its pieces with single spaces between
them. -/
theorem IsSqueezed.eq_intercalate_pieces {cs : List Char} (h : IsSqueezed p cs)
    (hspace : p ' ' = true) (hhead : ∀ c ∈ cs.head?, p c = false)
    (hlast : ∀ c ∈ cs.getLast?, p c = false) : cs = [' '].intercalate (pieces p cs) := by
  cases cs with
  | nil => rfl
  | cons c cs =>
    have hchain : (c :: cs).IsChain fun a b => ¬(p a = true ∧ p b = true) := by
      refine List.isChain_iff_getElem.mpr ?_
      rintro i hi ⟨ha, hb⟩
      exact List.isChain_iff_getElem.mp h.apart i hi
        ⟨h.spaces _ (List.getElem_mem _) ha, h.spaces _ (List.getElem_mem _) hb⟩
    obtain ⟨w, ws, hws, hnil, hempty⟩ :=
      exists_splitOnP_of_isChain (List.cons_ne_nil c cs) hchain hlast
    have hw : w ≠ [] := by
      intro hw
      obtain ⟨d, hd, hpd⟩ := hempty hw
      rw [hhead d hd] at hpd
      exact Bool.false_ne_true hpd
    -- Nothing between two separators is empty, so that all of it is a piece.
    have hall : pieces p (c :: cs) = (c :: cs).splitOnP p := by
      unfold pieces
      rw [hws, List.filter_eq_self]
      intro v hv
      refine decide_eq_true fun hv' => ?_
      rcases List.mem_cons.mp hv with rfl | hv
      · exact hw hv'
      · exact hnil (hv' ▸ hv)
    rw [hall, h.splitOnP_eq hspace, List.intercalate_splitOn]

/-- The words between single spaces are the words that are there. -/
theorem pieces_intercalate {ws : List (List Char)} (hspace : p ' ' = true)
    (hws : ∀ w ∈ ws, w ≠ [] ∧ ∀ c ∈ w, p c = false) :
    pieces p ([' '].intercalate ws) = ws := by
  induction ws with
  | nil => rfl
  | cons w ws ih =>
    obtain ⟨⟨hne, hw⟩, hrest⟩ := List.forall_mem_cons.mp hws
    cases ws with
    | nil =>
      have hone : [' '].intercalate [w] = w := by simp [List.intercalate]
      rw [hone, pieces_of_forall_not hw hne]
    | cons v vs =>
      have hcons : [' '].intercalate (w :: v :: vs) = w ++ ' ' :: [' '].intercalate (v :: vs) := by
        simp [List.intercalate]
      rw [hcons, (seesGaps_pieces p).gap hspace, ih hrest, pieces_of_forall_not hw hne,
        List.singleton_append]

/-- A text on one line is its words with single spaces between them. -/
theorem singleLine_eq_intercalate_words (cs : List Char) :
    singleLine cs = [' '].intercalate (words cs) := by
  have hline := isSingleLine_singleLine cs
  rw [words_eq_pieces, ← (seesGaps_pieces isBlank).view_singleLine cs]
  exact hline.squeezed.eq_intercalate_pieces (by decide) hline.trimmed.head hline.trimmed.last

end Triage.Text
