import Triage.Proofs.Diff.Rows

/-!
# Reading the rows of a rendered diff

What each group of rows does to the reader: the entries of a hunk use up the lines that its header
promises (`readRows_entries`), a hunk is added to the section under way (`leads_hunk`), and a file
ends that section and becomes the next one (`leads_file`). So a rendered diff is read as its files
if every number in it is short enough to be read, and otherwise not at all
(`readPatch_renderDiff`).
-/

namespace Triage

open Diff

/-- Whether a hunk can be written in rows: it has entries, each on one line. -/
structure Hunk.IsRenderable (h : Hunk) : Prop where
  filled : h.entries ≠ []
  feedless : ∀ e ∈ h.entries, '\n' ∉ e.content.toList

instance (h : Hunk) : Decidable h.IsRenderable :=
  decidable_of_iff (h.entries ≠ [] ∧ ∀ e ∈ h.entries, '\n' ∉ e.content.toList)
    ⟨fun hh => ⟨hh.1, hh.2⟩, fun hh => ⟨hh.filled, hh.feedless⟩⟩

/-- Whether a file can be written in rows: its name has no blanks, and its hunks can be written. -/
structure FileDiff.IsRenderable (f : FileDiff) : Prop where
  unspaced : ∀ c ∈ f.path.toList, Text.isBlank c = false
  hunks : ∀ h ∈ f.hunks, h.IsRenderable

instance (f : FileDiff) : Decidable f.IsRenderable :=
  decidable_of_iff (f.path.toList.all (!Text.isBlank ·) = true ∧ ∀ h ∈ f.hunks, h.IsRenderable)
    ⟨fun hf => ⟨by simpa using hf.1, hf.2⟩, fun hf => ⟨by simpa using hf.unspaced, hf.hunks⟩⟩

/-- Whether the numbers in the header of a hunk are short enough to be read. -/
def Hunk.HasShortNumbers (h : Hunk) : Prop :=
  ∀ side, h.start side < Nat.pow 10 maxIntegerDigits ∧
    (h.entriesOn side).length < Nat.pow 10 maxIntegerDigits

namespace Diff

variable {r r₁ r₂ : Reader} {rows rows₁ rows₂ : List String} {p q : Prop}
  {finished : List FileSection} {s : FileSection} {h : Hunk}

theorem tooLong?_rangeOf (h : Hunk) : (rangeOf h).tooLong? = none ↔ h.HasShortNumbers := by
  have hlimit : 0 < maxIntegerDigits := by decide
  have hshort := fun n => Numeral.length_digits_ofNat_le n hlimit
  rw [HunkRange.tooLong?, List.find?_eq_none]
  simp only [rangeOf, List.map_cons, List.map_nil, List.mem_cons, List.not_mem_nil, or_false,
    decide_eq_true_eq, Nat.not_lt, forall_eq_or_imp, forall_eq, hshort]
  constructor
  · rintro ⟨hleft, hleft', hright, hright'⟩ side
    cases side with
    | right => exact ⟨hright, hright'⟩
    | left => exact ⟨hleft, hleft'⟩
  · intro hnumbers
    exact ⟨(hnumbers .left).1, (hnumbers .left).2, (hnumbers .right).1, (hnumbers .right).2⟩

/-! ### Groups of rows -/

namespace Reader

/-- Reads rows, each as a line. -/
def readRows (r : Reader) (rows : List String) : Except PatchError Reader :=
  (rows.map lineOfRow).foldlM readLine r

theorem readRows_cons (r : Reader) (row : String) (rows : List String) :
    r.readRows (row :: rows) = (r.readLine (lineOfRow row)).bind fun r' => r'.readRows rows :=
  rfl

theorem readRows_append (r : Reader) (rows₁ rows₂ : List String) :
    r.readRows (rows₁ ++ rows₂) = (r.readRows rows₁).bind fun r' => r'.readRows rows₂ := by
  rw [readRows, List.map_append, List.foldlM_append]
  rfl

/-- Whether rows take the reader from one state to another if a condition holds, and are beyond a
limit otherwise. -/
structure Leads (rows : List String) (r r' : Reader) (p : Prop) : Prop where
  ok : p → r.readRows rows = .ok r'
  error : ¬ p → ∃ e, r.readRows rows = .error (.limit e)

theorem leads_nil (r : Reader) : Leads [] r r True :=
  ⟨fun _ => rfl, fun hp => absurd trivial hp⟩

theorem Leads.cons {row : String} (hrow : r.readLine (lineOfRow row) = .ok r₁)
    (hrows : Leads rows r₁ r₂ p) : Leads (row :: rows) r r₂ p := by
  constructor
  · intro hp
    rw [readRows_cons, hrow]
    exact hrows.ok hp
  · intro hp
    rw [readRows_cons, hrow]
    exact hrows.error hp

theorem Leads.append (h₁ : Leads rows₁ r r₁ p) (h₂ : Leads rows₂ r₁ r₂ q) :
    Leads (rows₁ ++ rows₂) r r₂ (p ∧ q) := by
  constructor
  · rintro ⟨hp, hq⟩
    rw [readRows_append, h₁.ok hp]
    exact h₂.ok hq
  · intro hpq
    rw [readRows_append]
    by_cases hp : p
    · rw [h₁.ok hp]
      exact h₂.error fun hq => hpq ⟨hp, hq⟩
    · obtain ⟨e, he⟩ := h₁.error hp
      exact ⟨e, by rw [he]; rfl⟩

end Reader

/-! ### Hunks -/

/-- How many lines of a hunk are still to come on a side. -/
def OpenHunk.missing (o : OpenHunk) : Side → Int
  | .right => o.rightMissing
  | .left => o.leftMissing

theorem OpenHunk.missing_add (o : OpenHunk) (e : Entry) (side : Side) :
    (o.add (.entry e)).missing side =
      if e.kind.isOn side then o.missing side - 1 else o.missing side := by
  cases side with
  | right => rfl
  | left => rfl

/-- Whether entries are what is missing of a hunk. -/
def OpenHunk.Awaits (o : OpenHunk) (entries : List Entry) : Prop :=
  ∀ side, o.missing side = (entries.filter (·.kind.isOn side)).length

theorem OpenHunk.Awaits.add {o : OpenHunk} {e : Entry} {entries : List Entry}
    (ho : o.Awaits (e :: entries)) : (o.add (.entry e)).Awaits entries := by
  intro side
  have hside := ho side
  rw [List.filter_cons] at hside
  rw [missing_add]
  split_ifs at hside ⊢ with hon
  · rw [List.length_cons] at hside
    omega
  · exact hside

theorem isOn_left_or_right (kind : LineKind) :
    kind.isOn .left = true ∨ kind.isOn .right = true := by
  cases kind with
  | add => exact Or.inr rfl
  | del => exact Or.inl rfl
  | normal => exact Or.inl rfl

/-- A hunk misses nothing on both sides exactly if no entries are to come. -/
theorem OpenHunk.Awaits.missing_eq_zero_iff {o : OpenHunk} {entries : List Entry}
    (ho : o.Awaits entries) : (o.leftMissing = 0 ∧ o.rightMissing = 0) ↔ entries = [] := by
  have hleft : o.leftMissing = _ := ho .left
  have hright : o.rightMissing = _ := ho .right
  rw [hleft, hright, Int.natCast_eq_zero, Int.natCast_eq_zero, List.length_eq_zero_iff,
    List.length_eq_zero_iff, List.filter_eq_nil_iff, List.filter_eq_nil_iff]
  constructor
  · rintro ⟨hleft, hright⟩
    rw [List.eq_nil_iff_forall_not_mem]
    intro e he
    -- Every entry is on a side, so one of the counts would not be zero.
    rcases isOn_left_or_right e.kind with hon | hon
    · exact hleft e he hon
    · exact hright e he hon
  · rintro rfl
    exact ⟨fun _ he => absurd he List.not_mem_nil, fun _ he => absurd he List.not_mem_nil⟩

theorem OpenHunk.Awaits.not_negative {o : OpenHunk} {entries : List Entry}
    (ho : o.Awaits entries) : ¬ (o.leftMissing < 0 ∨ o.rightMissing < 0) := by
  have hleft : o.leftMissing = _ := ho .left
  have hright : o.rightMissing = _ := ho .right
  omega

/-- The reader outside hunks and headers, possibly inside a section. -/
def Reader.between (finished : List FileSection) (current : Option FileSection) : Reader :=
  ⟨finished, current, false, none, none⟩

/-- The reader inside a hunk of a section. -/
def Reader.inHunk (finished : List FileSection) (s : FileSection) (o : OpenHunk) : Reader :=
  ⟨finished, some s, false, none, some o⟩

/-- A row of a hunk is added to it, and the last one ends it. -/
theorem readLine_row {o : OpenHunk} {e : Entry} {entries : List Entry}
    (ho : o.Awaits (e :: entries)) (he : '\n' ∉ e.content.toList) :
    (Reader.inHunk finished s o).readLine (lineOfRow e.row) =
      .ok (if entries = [] then
          .between finished (some { s with hunks := (o.add (.entry e)).toHunk :: s.hunks })
        else .inHunk finished s (o.add (.entry e))) := by
  show Reader.readBody _ o (lineOfRow e.row) = _
  rw [Reader.readBody, ofLine?_row he]
  dsimp only
  rw [if_neg ho.add.not_negative]
  simp only [ho.add.missing_eq_zero_iff]
  split_ifs with hlast
  · rfl
  · rfl

/-- The entries that are missing complete a hunk. -/
theorem readRows_entries {entries : List Entry} {o : OpenHunk} (hne : entries ≠ [])
    (hfeed : ∀ e ∈ entries, '\n' ∉ e.content.toList) (ho : o.Awaits entries) :
    (Reader.inHunk finished s o).readRows (entries.map Entry.row) =
      .ok (.between finished (some { s with
        hunks := ⟨o.range.leftStart.value, o.range.rightStart.value,
          o.entries.reverse ++ entries⟩ :: s.hunks })) := by
  -- What is missing always agrees with the entries to come, so the last one alone ends the hunk.
  induction entries generalizing o with
  | nil => exact absurd rfl hne
  | cons e entries ih =>
    have hrow : (Reader.inHunk finished s o).readLine (lineOfRow e.row) = _ :=
      readLine_row ho (hfeed e (List.mem_cons_self ..))
    have hentries : (o.add (.entry e)).entries.reverse = o.entries.reverse ++ [e] :=
      List.reverse_cons
    rw [List.map_cons, Reader.readRows_cons, hrow]
    cases entries with
    | nil =>
      rw [if_pos rfl, OpenHunk.toHunk, hentries]
      rfl
    | cons e' entries =>
      have hrest := ih (by simp) (fun d hd => hfeed d (List.mem_cons_of_mem _ hd)) ho.add
      rw [hentries, List.append_assoc] at hrest
      rw [if_neg (by simp)]
      exact hrest

theorem readLine_between (finished : List FileSection) (current : Option FileSection)
    (line : List Char) :
    (Reader.between finished current).readLine line =
      (Reader.between finished current).readHeader (String.ofList line) (Header.ofLine line) :=
  rfl

theorem readLine_headerRow (h : Hunk) (finished : List FileSection) (s : FileSection) :
    (Reader.between finished (some s)).readLine (lineOfRow h.headerRow) =
      match (rangeOf h).tooLong? with
      | some digits => .error (.limit (.tooLongToRead digits))
      | none => .ok (.inHunk finished s (.ofRange (rangeOf h))) := by
  rw [readLine_between, ofLine_headerRow, Reader.readHeader]
  cases (rangeOf h).tooLong? with
  | none => rfl
  | some digits => rfl

theorem awaits_ofRange (h : Hunk) : (OpenHunk.ofRange (rangeOf h)).Awaits h.entries := by
  intro side
  cases side with
  | right =>
    show ((Numeral.ofNat (h.entriesOn .right).length).value : Int) = (h.entriesOn .right).length
    rw [Numeral.value_ofNat]
  | left =>
    show ((Numeral.ofNat (h.entriesOn .left).length).value : Int) = (h.entriesOn .left).length
    rw [Numeral.value_ofNat]

/-- The rows of a hunk add it to the section under way. -/
theorem leads_hunk (hh : h.IsRenderable) :
    Reader.Leads h.rows (.between finished (some s))
      (.between finished (some { s with hunks := h :: s.hunks })) h.HasShortNumbers := by
  rw [← tooLong?_rangeOf]
  have hheader := readLine_headerRow h finished s
  constructor
  · intro hshort
    have hentries : (Reader.inHunk finished s (.ofRange (rangeOf h))).readRows _ = _ :=
      readRows_entries hh.filled hh.feedless (awaits_ofRange h)
    rw [hshort] at hheader
    rw [Hunk.rows, Reader.readRows_cons, hheader]
    refine hentries.trans ?_
    show Except.ok (Reader.between finished (some { s with
      hunks := ⟨(Numeral.ofNat h.leftStart).value, (Numeral.ofNat h.rightStart).value,
        h.entries⟩ :: s.hunks })) = _
    rw [Numeral.value_ofNat, Numeral.value_ofNat]
  · intro hlong
    -- The header is refused at its first number that is too long, before any entry is read.
    obtain ⟨digits, hdigits⟩ := Option.ne_none_iff_exists'.mp hlong
    rw [hdigits] at hheader
    rw [Hunk.rows, Reader.readRows_cons, hheader]
    exact ⟨_, rfl⟩

theorem leads_hunks {hunks : List Hunk} (hh : ∀ h ∈ hunks, h.IsRenderable) :
    Reader.Leads (hunks.flatMap Hunk.rows) (.between finished (some s))
      (.between finished (some { s with hunks := hunks.reverse ++ s.hunks }))
      (∀ h ∈ hunks, h.HasShortNumbers) := by
  induction hunks generalizing s with
  | nil => simpa using Reader.leads_nil (.between finished (some s))
  | cons h hunks ih =>
    have hhead : Reader.Leads h.rows (.between finished (some s)) _ _ :=
      leads_hunk (hh h (List.mem_cons_self ..))
    have hboth := hhead.append (ih fun g hg => hh g (List.mem_cons_of_mem _ hg))
    rw [List.flatMap_cons, List.forall_mem_cons, List.reverse_cons, List.append_assoc]
    exact hboth

/-! ### Files -/

/-- The section that a file is read as. -/
def sectionOf (f : FileDiff) : FileSection :=
  ⟨"a/" ++ f.path, "b/" ++ f.path, f.hunks⟩

/-- A section while it is under way. -/
def FileSection.reversed (s : FileSection) : FileSection :=
  { s with hunks := s.hunks.reverse }

theorem isNameChar_of_isBlank {c : Char} (h : Text.isBlank c = false) : isNameChar c = true := by
  rw [isNameChar, Bool.and_eq_true, decide_eq_true_eq, decide_eq_true_eq]
  constructor
  · rintro rfl
    exact absurd h (by decide)
  · rintro rfl
    exact absurd h (by decide)

theorem isNameChar_of_mem_sided {f : FileDiff} (hf : f.IsRenderable) (side : String)
    (hside : side.toList.all isNameChar = true) :
    ∀ c ∈ (side ++ f.path).toList, isNameChar c = true := by
  intro c hc
  rw [String.toList_append, List.mem_append] at hc
  rcases hc with hc | hc
  · exact List.all_eq_true.mp hside c hc
  · exact isNameChar_of_isBlank (hf.unspaced c hc)

theorem readLine_sourceRow {name : String} (hname : ∀ c ∈ name.toList, isNameChar c = true)
    (finished : List FileSection) (current : Option FileSection) :
    (Reader.between finished current).readLine (lineOfRow ("--- " ++ name)) =
      .ok ⟨current.toList ++ finished, none, false, some name, none⟩ := by
  rw [readLine_between, ofLine_source hname]
  rfl

theorem readLine_targetRow {name : String} (hname : ∀ c ∈ name.toList, isNameChar c = true)
    (finished : List FileSection) (source : String) :
    (Reader.mk finished none false (some source) none).readLine (lineOfRow ("+++ " ++ name)) =
      .ok (.between finished (some ⟨source, name, []⟩)) := by
  show Reader.readHeader _ _ (Header.ofLine (lineOfRow ("+++ " ++ name))) = _
  rw [ofLine_target hname]
  rfl

/-- The rows of a file end the section under way and begin the next one. -/
theorem leads_file {f : FileDiff} (hf : f.IsRenderable) (current : Option FileSection) :
    Reader.Leads f.rows (.between finished current)
      (.between (current.toList ++ finished) (some (sectionOf f).reversed))
      (∀ h ∈ f.hunks, h.HasShortNumbers) := by
  have hsource := isNameChar_of_mem_sided hf "a/" (by decide)
  have htarget := isNameChar_of_mem_sided hf "b/" (by decide)
  have hhunks : Reader.Leads (f.hunks.flatMap Hunk.rows)
      (.between (current.toList ++ finished) (some ⟨"a/" ++ f.path, "b/" ++ f.path, []⟩)) _ _ :=
    leads_hunks hf.hunks
  rw [List.append_nil] at hhunks
  exact (hhunks.cons (readLine_targetRow htarget ..)).cons (readLine_sourceRow hsource ..)

/-- The rows of files are read as their sections, behind those that there are. -/
theorem leads_files {files : List FileDiff} (hf : ∀ f ∈ files, f.IsRenderable)
    (finished : List FileSection) (current : Option FileSection) :
    ∃ finished' current',
      Reader.Leads (files.flatMap FileDiff.rows) (.between finished current)
        (.between finished' current') (∀ f ∈ files, ∀ h ∈ f.hunks, h.HasShortNumbers) ∧
      current'.toList ++ finished' =
        (files.map fun f => (sectionOf f).reversed).reverse ++ (current.toList ++ finished) := by
  -- A section is finished by the file behind it, so the last one is still under way at the end.
  induction files generalizing finished current with
  | nil => exact ⟨finished, current, by simpa using Reader.leads_nil _, rfl⟩
  | cons f files ih =>
    have hhead : Reader.Leads f.rows (.between finished current) _ _ :=
      leads_file (hf f (List.mem_cons_self ..)) current
    obtain ⟨finished', current', hrest, hsections⟩ :=
      ih (fun g hg => hf g (List.mem_cons_of_mem _ hg)) (current.toList ++ finished)
        (some (sectionOf f).reversed)
    refine ⟨finished', current', ?_, ?_⟩
    · rw [List.flatMap_cons, List.forall_mem_cons]
      exact hhead.append hrest
    · rw [hsections, List.map_cons, List.reverse_cons, List.append_assoc]
      rfl

/-! ### Patches -/

theorem feed_notMem_rows {f : FileDiff} (hf : f.IsRenderable) :
    ∀ row ∈ f.rows, '\n' ∉ row.toList := by
  have hname : ∀ side : String, side.toList.all isNameChar = true →
      '\n' ∉ (side ++ f.path).toList := by
    intro side hside hfeed
    exact absurd (isNameChar_of_mem_sided hf side hside _ hfeed) (by decide)
  intro row hrow
  rw [FileDiff.rows, List.mem_cons, List.mem_cons, List.mem_flatMap] at hrow
  rcases hrow with rfl | rfl | ⟨h, hh, hrow⟩
  · rw [String.toList_append, List.mem_append]
    exact not_or.mpr ⟨by decide, hname "a/" (by decide)⟩
  · rw [String.toList_append, List.mem_append]
    exact not_or.mpr ⟨by decide, hname "b/" (by decide)⟩
  · rcases List.mem_cons.mp hrow with rfl | hrow
    · exact feed_notMem_headerRow h
    · obtain ⟨e, he, rfl⟩ := List.mem_map.mp hrow
      exact feed_notMem_row ((hf.hunks h hh).feedless e he)

theorem finish_between (finished : List FileSection) (current : Option FileSection) :
    (Reader.between finished current).finish =
      .ok ((current.toList ++ finished).map FileSection.reversed).reverse :=
  rfl

theorem reversed_reversed (s : FileSection) : s.reversed.reversed = s := by
  simp [FileSection.reversed]

theorem readPatch_textOfRows {rows : List String} (h : ∀ row ∈ rows, '\n' ∉ row.toList) :
    readPatch (textOfRows rows) = (Reader.initial.readRows rows).bind Reader.finish := by
  rw [readPatch, feedLines_textOfRows h]
  rfl

/-- A rendered diff is read as its files if the numbers in it are short enough, and is beyond a
limit otherwise. -/
theorem readPatch_renderDiff {files : List FileDiff} (hf : ∀ f ∈ files, f.IsRenderable) :
    ((∀ f ∈ files, ∀ h ∈ f.hunks, h.HasShortNumbers) →
      readPatch (renderDiff files) = .ok (files.map sectionOf)) ∧
    (¬ (∀ f ∈ files, ∀ h ∈ f.hunks, h.HasShortNumbers) →
      ∃ e, readPatch (renderDiff files) = .error (.limit e)) := by
  obtain ⟨finished, current, hreads, hsections⟩ := leads_files hf [] none
  have hrows : ∀ row ∈ files.flatMap FileDiff.rows, '\n' ∉ row.toList := by
    intro row hrow
    obtain ⟨f, hmem, hrow⟩ := List.mem_flatMap.mp hrow
    exact feed_notMem_rows (hf f hmem) row hrow
  rw [renderDiff, readPatch_textOfRows hrows]
  constructor
  · intro hshort
    have hok : Reader.initial.readRows (files.flatMap FileDiff.rows) = _ := hreads.ok hshort
    have hreversed : FileSection.reversed ∘ (fun f => (sectionOf f).reversed) = sectionOf := by
      funext f
      exact reversed_reversed _
    -- Sections and hunks are kept last one first, and both lists are turned round at the end.
    rw [hok]
    show (Reader.between finished current).finish = _
    rw [finish_between, hsections, Option.toList_none, List.append_nil, List.append_nil,
      List.map_reverse, List.reverse_reverse, List.map_map, hreversed]
  · intro hlong
    obtain ⟨e, he⟩ := hreads.error hlong
    have herror : Reader.initial.readRows (files.flatMap FileDiff.rows) = _ := he
    exact ⟨e, by rw [herror]; rfl⟩

end Diff

end Triage
