import Triage.Diff.Patch
import Triage.Proofs.Text.Tidy

/-!
# Where the entries of a patch come from

A step of the reader loses entries or keeps them, and adds no entry but that of the line that it
reads (`Reader.mem_entries_of_readLine`). So every entry of every hunk of a patch is one of the
lines of the patch (`exists_line_of_mem_entries`). A line has a line feed at its end only, which the
content does not have, so no content of a patch has a line feed (`feed_notMem_content`).
-/

namespace Triage.Diff

/-! ### Lines -/

/-- Whether a line feed of a text can only be the end of it. -/
def IsFeedLine (line : List Char) : Prop :=
  ∀ front back, line = front ++ '\n' :: back → back = []

theorem isFeedLine_singleton (c : Char) : IsFeedLine [c] := by
  rintro (_ | ⟨d, front⟩) back h
  · exact (List.cons.inj h).2.symm
  · exact absurd (List.cons.inj h).2.symm (by simp)

theorem IsFeedLine.cons {c : Char} {line : List Char} (hc : c ≠ '\n') (h : IsFeedLine line) :
    IsFeedLine (c :: line) := by
  rintro (_ | ⟨d, front⟩) back heq
  · exact absurd (List.cons.inj heq).1 hc
  · exact h front back (List.cons.inj heq).2

theorem IsFeedLine.of_part {part line : List Char} (h : IsFeedLine line) (hpart : part <:+: line) :
    IsFeedLine part := by
  obtain ⟨before, after, rfl⟩ := hpart
  rintro front back rfl
  have hnil := h (before ++ front) (back ++ after) (by simp)
  exact (List.append_eq_nil_iff.mp hnil).1

/-- A text is cut at every line feed. -/
theorem isFeedLine_of_mem_feedLines {cs line : List Char} (h : line ∈ Text.feedLines cs) :
    IsFeedLine line := by
  induction cs generalizing line with
  | nil => exact absurd h List.not_mem_nil
  | cons c cs ih =>
    unfold Text.feedLines at h ih
    rw [List.foldr_cons] at h
    split_ifs at h with hc
    · rcases List.mem_cons.mp h with rfl | h
      · exact isFeedLine_singleton c
      · exact ih h
    · split at h
      · obtain rfl := List.mem_singleton.mp h
        exact isFeedLine_singleton c
      · next first rest hrest =>
        rw [hrest] at ih
        rcases List.mem_cons.mp h with rfl | h
        · exact (ih (List.mem_cons_self ..)).cons hc
        · exact ih (List.mem_cons_of_mem _ h)

theorem feed_notMem_contentOf {cs : List Char} (h : IsFeedLine cs) :
    '\n' ∉ (contentOf cs).toList := by
  rw [contentOf, String.toList_ofList, Text.dropTrailing_eq_rdropWhile]
  intro hfeed
  obtain ⟨front, back, heq⟩ := List.append_of_mem hfeed
  -- What is left ends with the line feed that it has, which would have been dropped.
  have hnil := h.of_part (List.rdropWhile_prefix ..).isInfix front back heq
  have hne : cs.rdropWhile (· == '\n') ≠ [] := List.ne_nil_of_mem hfeed
  have hlast := List.rdropWhile_last_not (· == '\n') cs hne
  simp only [heq, hnil] at hlast
  simp at hlast

/-- The content of an entry is part of its line, without line feeds at the end. -/
theorem exists_part_of_ofLine? {line : List Char} {e : Entry}
    (he : BodyLine.ofLine? line = some (.entry e)) :
    ∃ part, part <:+: line ∧ e.content = contentOf part := by
  unfold BodyLine.ofLine? at he
  split at he
  · obtain rfl := BodyLine.entry.inj (Option.some.inj he)
    exact ⟨_, (List.suffix_cons ..).isInfix, rfl⟩
  · obtain rfl := BodyLine.entry.inj (Option.some.inj he)
    exact ⟨_, (List.suffix_cons ..).isInfix, rfl⟩
  · obtain rfl := BodyLine.entry.inj (Option.some.inj he)
    exact ⟨_, (List.suffix_cons ..).isInfix, rfl⟩
  · exact absurd he (by simp)
  · -- A line that begins with its ending is as much of it as two characters can hold.
    split_ifs at he
    obtain rfl := BodyLine.entry.inj (Option.some.inj he)
    refine ⟨_, List.IsPrefix.isInfix ?_, rfl⟩
    exact (List.takeWhile_prefix _).trans (List.take_prefix ..)
  · exact absurd he (by simp)

/-! ### What a reader holds -/

/-- The entries of a section. -/
def FileSection.entries (s : FileSection) : List Entry :=
  s.hunks.flatMap Hunk.entries

theorem OpenHunk.mem_entries_add {o : OpenHunk} {body : BodyLine} {e : Entry}
    (he : e ∈ (o.add body).entries) : e ∈ o.entries ∨ body = .entry e := by
  cases body with
  | noLineFeed => exact Or.inl he
  | entry d =>
    rcases List.mem_cons.mp he with rfl | he
    · exact Or.inr rfl
    · exact Or.inl he

namespace Reader

variable {r r' : Reader} {o : OpenHunk} {line : List Char} {e : Entry}

/-- The entries that were read so far. -/
def entries (r : Reader) : List Entry :=
  (r.current.toList ++ r.finished).flatMap FileSection.entries ++
    r.openHunk.toList.flatMap OpenHunk.entries

theorem mem_entries :
    e ∈ r.entries ↔ (∃ s ∈ r.current.toList ++ r.finished, e ∈ s.entries) ∨
      ∃ o, r.openHunk = some o ∧ e ∈ o.entries := by
  simp only [entries, List.mem_append, List.mem_flatMap, Option.mem_toList]

theorem entries_closeBody (r : Reader) : r.closeBody.entries = r.entries := by
  unfold closeBody
  split_ifs
  · rfl
  · rfl

theorem entries_enterHeader (r : Reader) : r.enterHeader.entries = r.entries :=
  entries_closeBody r

theorem mem_entries_addHunk {h : Hunk} (he : e ∈ (r.addHunk h).entries) :
    e ∈ r.entries ∨ e ∈ h.entries := by
  cases hs : r.current with
  | none =>
    have hsame : (r.addHunk h).entries = r.entries := by simp [addHunk, entries, hs]
    exact Or.inl (hsame ▸ he)
  | some s =>
    have hmore : (r.addHunk h).entries = h.entries ++ r.entries := by
      simp [addHunk, entries, hs, FileSection.entries]
    rw [hmore, List.mem_append] at he
    exact he.symm

/-- Names do not change the entries of the section under way. -/
theorem entries_rename {s : FileSection} (hs : r.current = some s) (source target : String) :
    entries { r with current := some { s with source := source, target := target } } =
      r.entries := by
  rw [entries, entries, hs]
  rfl

theorem entries_readTarget {text name : String} (h : r.readTarget text name = .ok r') :
    r'.entries = r.entries := by
  unfold readTarget at h
  split at h
  · split_ifs at h
    rw [Except.ok.inj h]
  · cases h
  · rw [← Except.ok.inj h]
    rfl

theorem entries_readBinary (r : Reader) (source : String) (target : Option String) :
    (r.readBinary source target).entries = r.entries := by
  unfold readBinary
  dsimp only
  split_ifs
  · rfl
  · rfl

/-- A line outside hunks has no entries. -/
theorem entries_readHeader {text : String} {header : Header} (hopen : r.openHunk = none)
    (h : r.readHeader text header = .ok r') : r'.entries = r.entries := by
  cases header with
  | file source target =>
    obtain rfl := Except.ok.inj h
    rfl
  | created =>
    rw [readHeader] at h
    split at h
    · next s hs _ =>
      rw [← Except.ok.inj h]
      exact entries_rename hs Path.devNull s.target
    · cases h
  | deleted =>
    rw [readHeader] at h
    split at h
    · next s hs _ =>
      rw [← Except.ok.inj h]
      exact entries_rename hs s.source Path.devNull
    · cases h
  | attributes =>
    obtain rfl := Except.ok.inj h
    split_ifs
    · rfl
    · exact r.entries_enterHeader
  | source name =>
    obtain rfl := Except.ok.inj h
    exact r.entries_closeBody
  | target name => exact entries_readTarget h
  | hunk range =>
    rw [readHeader] at h
    split at h
    · cases h
    · cases h
    · rw [← Except.ok.inj h, entries, entries, hopen]
      rfl
  | noLineFeed =>
    rw [readHeader] at h
    split at h
    · cases h
    · split_ifs at h
      rw [Except.ok.inj h]
  | empty =>
    obtain rfl := Except.ok.inj h
    split_ifs
    · rfl
    · exact r.entries_enterHeader
  | binary source target =>
    obtain rfl := Except.ok.inj h
    rw [entries_readBinary, entries_enterHeader]
  | binaryPatch =>
    rw [readHeader] at h
    split_ifs at h
    rw [← Except.ok.inj h]
    exact r.entries_closeBody
  | other =>
    obtain rfl := Except.ok.inj h
    exact r.entries_enterHeader

/-- A line of a hunk adds its entry and no other one. -/
theorem mem_entries_of_readBody (hopen : r.openHunk = some o) (h : r.readBody o line = .ok r')
    (he : e ∈ r'.entries) : e ∈ r.entries ∨ BodyLine.ofLine? line = some (.entry e) := by
  rw [readBody] at h
  cases hbody : BodyLine.ofLine? line with
  | none =>
    rw [hbody] at h
    cases h
  | some body =>
    have hadded : e ∈ (o.add body).entries → e ∈ r.entries ∨ some body = some (.entry e) := by
      intro hmem
      rcases OpenHunk.mem_entries_add hmem with hmem | rfl
      · exact Or.inl (mem_entries.mpr (Or.inr ⟨o, hopen, hmem⟩))
      · exact Or.inr rfl
    rw [hbody] at h
    dsimp only at h
    split_ifs at h
    · -- The hunk ends here, and its entries are those of the section from now on.
      obtain rfl := Except.ok.inj h
      rcases mem_entries.mp he with hsection | ⟨o', hnone, -⟩
      · rcases mem_entries_addHunk (mem_entries.mpr (Or.inl hsection)) with hmem | hmem
        · exact Or.inl hmem
        · exact hadded (List.mem_reverse.mp hmem)
      · cases hnone
    · obtain rfl := Except.ok.inj h
      rcases mem_entries.mp he with hsection | ⟨o', hsome, hmem⟩
      · exact Or.inl (mem_entries.mpr (Or.inl hsection))
      · obtain rfl := Option.some.inj hsome
        exact hadded hmem

/-- A line adds its own entry and no other one. -/
theorem mem_entries_of_readLine (h : r.readLine line = .ok r') (he : e ∈ r'.entries) :
    e ∈ r.entries ∨ BodyLine.ofLine? line = some (.entry e) := by
  unfold readLine at h
  cases hopen : r.openHunk with
  | none =>
    rw [hopen] at h
    rw [← entries_readHeader hopen h]
    exact Or.inl he
  | some o =>
    rw [hopen] at h
    exact mem_entries_of_readBody hopen h he

/-- Every entry that the reader holds behind some lines was held in front of them or is one of
them. -/
theorem mem_entries_of_readLines {lines : List (List Char)} (h : lines.foldlM readLine r = .ok r')
    (he : e ∈ r'.entries) :
    e ∈ r.entries ∨ ∃ line ∈ lines, BodyLine.ofLine? line = some (.entry e) := by
  induction lines generalizing r with
  | nil =>
    obtain rfl := Except.ok.inj h
    exact Or.inl he
  | cons line lines ih =>
    rw [List.foldlM_cons] at h
    cases hline : r.readLine line with
    | error err =>
      rw [hline] at h
      cases h
    | ok r₁ =>
      rw [hline] at h
      rcases ih h with hheld | ⟨other, hother, hentry⟩
      · rcases mem_entries_of_readLine hline hheld with hheld | hentry
        · exact Or.inl hheld
        · exact Or.inr ⟨line, List.mem_cons_self .., hentry⟩
      · exact Or.inr ⟨other, List.mem_cons_of_mem _ hother, hentry⟩

/-- The entries of the sections of a patch are those that the reader holds at its end. -/
theorem mem_entries_of_finish {sections : List FileSection} {s : FileSection} {h : Hunk}
    (hfinish : r.finish = .ok sections) (hs : s ∈ sections) (hh : h ∈ s.hunks)
    (he : e ∈ h.entries) : e ∈ r.entries := by
  have hsections : ∀ r : Reader,
      s ∈ (r.close.finished.map fun s => { s with hunks := s.hunks.reverse }).reverse →
        e ∈ r.entries := by
    intro r hs
    obtain ⟨t, ht, rfl⟩ := List.mem_map.mp (List.mem_reverse.mp hs)
    have hmem : e ∈ t.entries := List.mem_flatMap.mpr ⟨h, List.mem_reverse.mp hh, he⟩
    exact mem_entries.mpr (Or.inl ⟨t, ht, hmem⟩)
  rw [finish] at hfinish
  cases hopen : r.openHunk with
  | none =>
    rw [hopen] at hfinish
    obtain rfl := Except.ok.inj hfinish
    exact hsections r hs
  | some o =>
    rw [hopen] at hfinish
    dsimp only at hfinish
    split_ifs at hfinish
    obtain rfl := Except.ok.inj hfinish
    rcases mem_entries_addHunk (hsections _ hs) with hmem | hmem
    · exact hmem
    · exact mem_entries.mpr (Or.inr ⟨o, hopen, List.mem_reverse.mp hmem⟩)

end Reader

/-! ### Patches -/

/-- Every entry of a hunk of a patch is a line of the patch. -/
theorem exists_line_of_mem_entries {text : String} {sections : List FileSection} {s : FileSection}
    {h : Hunk} {e : Entry} (hread : readPatch text = .ok sections) (hs : s ∈ sections)
    (hh : h ∈ s.hunks) (he : e ∈ h.entries) :
    ∃ line ∈ Text.feedLines text.toList, BodyLine.ofLine? line = some (.entry e) := by
  rw [readPatch] at hread
  cases hlines : (Text.feedLines text.toList).foldlM Reader.readLine .initial with
  | error err =>
    rw [hlines] at hread
    cases hread
  | ok r =>
    rw [hlines] at hread
    have hheld : e ∈ r.entries := Reader.mem_entries_of_finish hread hs hh he
    rcases Reader.mem_entries_of_readLines hlines hheld with hmem | hline
    · exact absurd hmem List.not_mem_nil
    · exact hline

/-- The contents of a patch have no line feeds. -/
theorem feed_notMem_content {text : String} {sections : List FileSection} {s : FileSection}
    {h : Hunk} (hread : readPatch text = .ok sections) (hs : s ∈ sections) (hh : h ∈ s.hunks) :
    ∀ e ∈ h.entries, '\n' ∉ e.content.toList := by
  intro e he
  obtain ⟨line, hline, hentry⟩ := exists_line_of_mem_entries hread hs hh he
  obtain ⟨part, hpart, hcontent⟩ := exists_part_of_ofLine? hentry
  rw [hcontent]
  exact feed_notMem_contentOf ((isFeedLine_of_mem_feedLines hline).of_part hpart)

end Triage.Diff
