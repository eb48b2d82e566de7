import Triage.ChangedFile.Listing
import Triage.Proofs.OrderedMap
import Triage.Proofs.Text.Numerals
import Triage.Proofs.Text.Words

/-!
# Listings read back

A listing is written in rows, with tabs between the fields of a row and the path last. Its rows are
read as they were written (`rows_textOfRows`). Two listings of changes give one changed file for
each path, those of the listing of statuses first (`changedFiles_eq_records`): with the status that
the letter in its row means, and with the counts in its row of the other listing, unless they have
more digits than an integer that is read may have (`changedFiles_records_iff`).
-/

namespace Triage.Listing

open Text

/-! ### Rows -/

/-- Whether a text can be a path in a listing. -/
structure IsListedPath (path : String) : Prop where
  nonempty : path ≠ ""
  tabless : '\t' ∉ path.toList
  unbroken : ∀ c ∈ path.toList, isLineBoundary c = false
  trimmed : IsTrimmed path.toList

instance (path : String) : Decidable (IsListedPath path) :=
  decidable_of_iff
    (path ≠ "" ∧ '\t' ∉ path.toList ∧ path.toList.all (fun c => !isLineBoundary c) = true ∧
      IsTrimmed path.toList) <| by
    simp only [List.all_eq_true, Bool.not_eq_true']
    exact ⟨fun ⟨hne, htab, hbreak, htrim⟩ => ⟨hne, htab, hbreak, htrim⟩,
      fun h => ⟨h.nonempty, h.tabless, h.unbroken, h.trimmed⟩⟩

/-- A row of a listing. -/
structure Row where
  first : String
  between : List String
  path : String

namespace Row

def fields (r : Row) : List String :=
  r.first :: (r.between ++ [r.path])

/-- The row as it is written, with tabs between the fields. -/
def text (r : Row) : String :=
  "\t".intercalate r.fields

/-- Whether a row can be read as it is written: nothing but a tab ends a field, nothing in a field
ends a line, and no blank is at either end. -/
structure IsListed (r : Row) : Prop where
  nonempty : r.first ≠ ""
  first : ∀ c ∈ r.first.toList, isBlank c = false
  between : ∀ s ∈ r.between, ∀ c ∈ s.toList, c ≠ '\t' ∧ isLineBoundary c = false
  path : IsListedPath r.path

end Row

theorem isBlank_of_isLineBoundary {c : Char} (h : isLineBoundary c = true) : isBlank c = true := by
  simp [isLineBoundary] at h
  simp [isBlank]
  omega

theorem ne_tab_of_isBlank_eq_false {c : Char} (h : isBlank c = false) :
    c ≠ '\t' ∧ isLineBoundary c = false := by
  refine ⟨fun htab => absurd h (htab ▸ by decide), ?_⟩
  by_contra hboundary
  rw [isBlank_of_isLineBoundary (by simpa using hboundary)] at h
  exact Bool.false_ne_true h.symm

theorem mem_intercalate {α : Type} {a : α} {sep : List α} {parts : List (List α)}
    (h : a ∈ sep.intercalate parts) : a ∈ sep ∨ ∃ part ∈ parts, a ∈ part := by
  induction parts with
  | nil => exact absurd h List.not_mem_nil
  | cons part parts ih =>
    cases parts with
    | nil => exact Or.inr ⟨part, List.mem_singleton_self part, by simpa using h⟩
    | cons next parts =>
      rw [List.intercalate_cons_cons, List.mem_append, List.mem_append] at h
      rcases h with (h | h) | h
      · exact Or.inr ⟨part, List.mem_cons_self .., h⟩
      · exact Or.inl h
      · exact (ih h).imp_right fun ⟨other, hother, ha⟩ =>
          ⟨other, List.mem_cons_of_mem _ hother, ha⟩

theorem suffix_intercalate_concat {α : Type} (sep : List α) (parts : List (List α))
    (last : List α) : last <:+ sep.intercalate (parts ++ [last]) := by
  induction parts with
  | nil => simp
  | cons part parts ih =>
    rw [List.cons_append, List.intercalate_cons_of_ne_nil (by simp)]
    exact ih.trans (List.suffix_append ..)

namespace Row.IsListed

variable {r : Row}

theorem field (h : r.IsListed) {s : String} (hs : s ∈ r.fields) :
    ∀ c ∈ s.toList, c ≠ '\t' ∧ isLineBoundary c = false := by
  intro c hc
  rcases List.mem_cons.mp hs with rfl | hs
  · exact ne_tab_of_isBlank_eq_false (h.first c hc)
  · rcases List.mem_append.mp hs with hs | hs
    · exact h.between s hs c hc
    · obtain rfl := List.mem_singleton.mp hs
      exact ⟨fun htab => h.path.tabless (htab ▸ hc), h.path.unbroken c hc⟩

theorem toList_text (r : Row) :
    r.text.toList = ['\t'].intercalate (r.fields.map String.toList) := by
  rw [Row.text, String.toList_intercalate]
  rfl

/-- Nothing in a row ends a line. -/
theorem unbroken (h : r.IsListed) : ∀ c ∈ r.text.toList, isLineBoundary c = false := by
  intro c hc
  rw [toList_text] at hc
  rcases mem_intercalate hc with htab | ⟨part, hpart, hc⟩
  · obtain rfl := List.mem_singleton.mp htab
    decide
  · obtain ⟨s, hs, rfl⟩ := List.mem_map.mp hpart
    exact (h.field hs c hc).2

theorem trimmed (h : r.IsListed) : IsTrimmed r.text.toList := by
  have hfirst : r.first.toList ≠ [] := by simpa using h.nonempty
  have hpath : r.path.toList ≠ [] := by simpa using h.path.nonempty
  constructor
  · intro c hc
    rw [toList_text, Row.fields, List.map_cons, List.intercalate_cons_of_ne_nil (by simp),
      List.append_assoc, List.head?_append_of_ne_nil _ hfirst] at hc
    exact h.first c (List.mem_of_mem_head? hc)
  · intro c hc
    have hsuffix := suffix_intercalate_concat ['\t'] ((r.first :: r.between).map String.toList)
      r.path.toList
    obtain ⟨front, hfront⟩ := hsuffix
    rw [toList_text, Row.fields, ← List.cons_append, List.map_append, List.map_singleton, ← hfront,
      List.getLast?_append_of_ne_nil _ hpath] at hc
    exact h.path.trimmed.last c hc

/-- The fields of a row are read as they were written. -/
theorem fields_text (h : r.IsListed) : Listing.fields r.text.toList = r.fields := by
  have htabless : ∀ field ∈ r.fields.map String.toList, '\t' ∉ field := by
    rw [List.forall_mem_map]
    exact fun s hs htab => (h.field hs '\t' htab).1 rfl
  have hsplit : (['\t'].intercalate (r.fields.map String.toList)).splitOn '\t' =
      r.fields.map String.toList := List.splitOn_intercalate '\t' htabless (by simp [Row.fields])
  rw [List.splitOn_eq_splitOnP] at hsplit
  rw [Listing.fields, trim_eq_self h.trimmed, splitAt_eq_splitOnP, toList_text, hsplit,
    List.map_map]
  simp [Function.comp_def]

end Row.IsListed

/-! ### Lines -/

theorem linesFrom_append {row : List Char} (h : ∀ c ∈ row, isLineBoundary c = false)
    (line rest : List Char) :
    linesFrom line (row ++ '\n' :: rest) = (line.reverse ++ row) :: linesFrom [] rest := by
  induction row generalizing line with
  | nil =>
    rw [List.nil_append, List.append_nil, linesFrom, if_pos (by decide)]
    exact fun _ hreturn => absurd hreturn (by decide)
  | cons c row ih =>
    obtain ⟨hc, hrow⟩ := List.forall_mem_cons.mp h
    have hreturn : c ≠ '\r' := fun hreturn => absurd hc (hreturn ▸ by decide)
    rw [List.cons_append, linesFrom, if_neg (by simp [hc]), ih hrow, List.reverse_cons,
      List.append_assoc, List.singleton_append]
    exact fun _ heq => absurd heq hreturn

theorem lines_textOfRows {texts : List String}
    (h : ∀ text ∈ texts, ∀ c ∈ text.toList, isLineBoundary c = false) :
    lines (textOfRows texts).toList = texts.map String.toList := by
  induction texts with
  | nil => rfl
  | cons text texts ih =>
    obtain ⟨htext, htexts⟩ := List.forall_mem_cons.mp h
    rw [toList_textOfRows_cons, lines, linesFrom_append htext, List.map_cons, List.reverse_nil,
      List.nil_append]
    exact congrArg _ (ih htexts)

/-- The rows of a listing are read as they were written. -/
theorem rows_textOfRows {least : ℕ} {items : List Row} (h : ∀ r ∈ items, r.IsListed)
    (hleast : ∀ r ∈ items, least ≤ r.fields.length) :
    rows least (textOfRows (items.map Row.text)) = items.map fun r => (r.path, r.fields) := by
  have hlines : lines (textOfRows (items.map Row.text)).toList =
      items.map fun r => r.text.toList := by
    rw [lines_textOfRows (List.forall_mem_map.mpr fun r hr => (h r hr).unbroken), List.map_map]
    rfl
  rw [rows, hlines, List.filterMap_map, ← List.filterMap_eq_map]
  apply List.filterMap_congr
  intro r hr
  have hpath : trimmed (r.fields.getLast?.getD "") = r.path := by
    rw [Row.fields, ← List.cons_append, List.getLast?_concat, Option.getD_some, trimmed,
      trim_eq_self (h r hr).path.trimmed, String.ofList_toList]
  simp [(h r hr).fields_text, hpath, hleast r hr, (h r hr).path.nonempty]

/-- What is made of the rows of a listing is made of what the rows were written for. -/
theorem foldl_rows {γ σ : Type} {row : γ → Row} {least : ℕ} {changes : List γ}
    (h : ∀ c ∈ changes, (row c).IsListed) (hleast : ∀ c ∈ changes, least ≤ (row c).fields.length)
    (step : σ → String × List String → σ) (start : σ) :
    (rows least (textOfRows (changes.map fun c => (row c).text))).foldl step start =
      changes.foldl (fun s c => step s ((row c).path, (row c).fields)) start := by
  have hrows := rows_textOfRows (List.forall_mem_map.mpr h) (List.forall_mem_map.mpr hleast)
  rw [List.map_map, List.map_map] at hrows
  rw [show (fun c => (row c).text) = Row.text ∘ row from rfl, hrows, List.foldl_map]
  rfl

/-! ### Changes -/

/-- What a listing of statuses says of a file. -/
inductive ChangeKind
  | added
  | modified
  | removed
  | renamed
  | copied
  | retyped
  | unmerged
  deriving DecidableEq, Repr

def ChangeKind.letter : ChangeKind → Char
  | added => 'A'
  | modified => 'M'
  | removed => 'D'
  | renamed => 'R'
  | copied => 'C'
  | retyped => 'T'
  | unmerged => 'U'

/-- The status in the record of a file; one that is not merged counts as modified. -/
def ChangeKind.status : ChangeKind → String
  | added => "added"
  | modified => "modified"
  | removed => "removed"
  | renamed => "renamed"
  | copied => "copied"
  | retyped => "changed"
  | unmerged => "modified"

/-- A change in a listing of statuses, with the digits behind its letter and the path that the file
had before. -/
structure StatusChange where
  kind : ChangeKind
  similarity : List (Fin 10)
  source : Option String
  path : String

namespace StatusChange

def code (c : StatusChange) : String :=
  String.ofList (c.kind.letter :: c.similarity.map fun d : Fin 10 => Nat.digitChar d)

def row (c : StatusChange) : Row :=
  ⟨c.code, c.source.toList, c.path⟩

/-- Whether the paths of a change are read as they are written. -/
structure IsListed (c : StatusChange) : Prop where
  source : ∀ s ∈ c.source.toList, ∀ char ∈ s.toList, char ≠ '\t' ∧ isLineBoundary char = false
  path : IsListedPath c.path

instance (c : StatusChange) : Decidable c.IsListed :=
  decidable_of_iff
    ((∀ s ∈ c.source.toList,
        s.toList.all (fun char => decide (char ≠ '\t') && !isLineBoundary char) = true) ∧
      IsListedPath c.path) <| by
    simp only [List.all_eq_true, Bool.and_eq_true, decide_eq_true_eq, Bool.not_eq_true']
    exact ⟨fun ⟨hsource, hpath⟩ => ⟨hsource, hpath⟩, fun h => ⟨h.source, h.path⟩⟩

end StatusChange

/-- A count of lines in a listing; a binary file has none. -/
inductive Count
  | binary
  | lines (zeros n : ℕ)

namespace Count

/-- A count as it is written: a dash, or a decimal that may begin with zeros. -/
def text : Count → String
  | binary => "-"
  | lines zeros n => String.ofList (List.replicate zeros '0' ++ Nat.toDigits 10 n)

/-- The number that a count means. -/
def value? : Count → Option Int
  | binary => none
  | lines _ n => some n

/-- Whether a count has no more digits than an integer that is read may have. -/
def IsShort : Count → Prop
  | binary => True
  | lines zeros n => zeros + (Nat.toDigits 10 n).length ≤ maxIntegerDigits

instance (count : Count) : Decidable count.IsShort :=
  match count with
  | binary => isTrue trivial
  | lines zeros n => inferInstanceAs (Decidable (zeros + (Nat.toDigits 10 n).length ≤ _))

/-- The number that is read for a count. -/
def read? (count : Count) : Option Int :=
  if count.IsShort then count.value? else none

end Count

/-- A change in a listing of counts. -/
structure CountChange where
  added : Count
  deleted : Count
  path : String

namespace CountChange

def row (c : CountChange) : Row :=
  ⟨c.added.text, [c.deleted.text], c.path⟩

def IsShort (c : CountChange) : Prop :=
  c.added.IsShort ∧ c.deleted.IsShort

instance (c : CountChange) : Decidable c.IsShort :=
  inferInstanceAs (Decidable (_ ∧ _))

end CountChange

/-- The listing of statuses for a list of changes. -/
def statusListing (statuses : List StatusChange) : String :=
  textOfRows (statuses.map fun c => c.row.text)

/-- The listing of counts for a list of changes. -/
def countListing (counts : List CountChange) : String :=
  textOfRows (counts.map fun c => c.row.text)

/-- The paths of two lists of changes, those of the first in front. -/
def pathsOf (statuses : List StatusChange) (counts : List CountChange) : List String :=
  statuses.map StatusChange.path ++
    (counts.map CountChange.path).filter (· ∉ statuses.map StatusChange.path)

/-- What two lists of changes tell of a path, the counts taken as `value` has them. -/
def record (value : Count → Option Int) (statuses : List StatusChange) (counts : List CountChange)
    (path : String) : ChangedFile where
  path := path
  additions := (counts.find? (·.path = path)).bind fun c => value c.added
  deletions := (counts.find? (·.path = path)).bind fun c => value c.deleted
  risk := none
  status := (statuses.find? (·.path = path)).map fun c => c.kind.status

def records (value : Count → Option Int) (statuses : List StatusChange)
    (counts : List CountChange) : List ChangedFile :=
  (pathsOf statuses counts).map (record value statuses counts)

/-! ### Fields -/

namespace StatusChange

theorem isBlank_of_mem_code (c : StatusChange) : ∀ char ∈ c.code.toList, isBlank char = false := by
  have hdigit : ∀ d : Fin 10, isBlank (Nat.digitChar d) = false := by decide
  rw [code, String.toList_ofList, List.forall_mem_cons, List.forall_mem_map]
  constructor
  · cases c.kind <;> decide
  · exact fun d _ => hdigit d

theorem statusOfCode_code (c : StatusChange) : statusOfCode c.code = c.kind.status := by
  have htrim : trim c.code.toList = c.code.toList :=
    trim_eq_self ⟨fun char hchar => c.isBlank_of_mem_code char (List.mem_of_mem_head? hchar),
      fun char hchar => c.isBlank_of_mem_code char (List.mem_of_mem_getLast? hchar)⟩
  have hletter : upperChar c.kind.letter = [c.kind.letter] := by
    cases c.kind <;> decide
  have hname : statusNames.lookup c.kind.letter = some c.kind.status := by
    cases c.kind <;> decide
  rw [statusOfCode, htrim, code, String.toList_ofList, upper, List.flatMap_cons, hletter]
  simp only [List.singleton_append, hname, Option.getD_some]

theorem IsListed.row {c : StatusChange} (h : c.IsListed) : c.row.IsListed where
  nonempty := by simp [StatusChange.row, code]
  first := c.isBlank_of_mem_code
  between := h.source
  path := h.path

end StatusChange

namespace Count

theorem text_ne_empty (count : Count) : count.text ≠ "" := by
  cases count with
  | binary => decide
  | lines zeros n => simp [text, Nat.toDigits_ne_nil]

theorem isBlank_of_mem_text (count : Count) : ∀ c ∈ count.text.toList, isBlank c = false := by
  intro c hc
  cases count with
  | binary =>
    rw [List.eq_of_mem_singleton (show c ∈ ['-'] from hc)]
    decide
  | lines zeros n =>
    rw [text, String.toList_ofList, List.mem_append] at hc
    rcases hc with hc | hc
    · rw [List.eq_of_mem_replicate hc]
      decide
    · exact of_isDigit (P := fun c => isBlank c = false) (by decide)
        (Diff.isDigit_of_mem_toDigits hc)

theorem count?_text (count : Count) : count? count.text = count.read? := by
  cases count with
  | binary => rfl
  | lines zeros n =>
    rw [count?, text, String.toList_ofList, readInteger_padded]
    rfl

theorem read?_eq_value?_iff (count : Count) : count.read? = count.value? ↔ count.IsShort := by
  rw [read?]
  cases count with
  | binary => simp [IsShort]
  | lines zeros n => simp [value?]

end Count

theorem CountChange.isListed_row {c : CountChange} (h : IsListedPath c.path) :
    c.row.IsListed where
  nonempty := c.added.text_ne_empty
  first := c.added.isBlank_of_mem_text
  between := by
    intro s hs char hchar
    obtain rfl := List.mem_singleton.mp hs
    exact ne_tab_of_isBlank_eq_false (c.deleted.isBlank_of_mem_text char hchar)
  path := h

/-! ### Records -/

/-- What a listing of statuses alone tells of a file. -/
def StatusChange.file (c : StatusChange) : ChangedFile :=
  ⟨c.path, none, none, none, some c.kind.status⟩

/-- What a listing of counts adds to what is known of a file. -/
def CountChange.file (known : Option ChangedFile) (c : CountChange) : ChangedFile :=
  ⟨c.path, c.added.read?, c.deleted.read?, none, known.bind ChangedFile.status⟩

variable {statuses : List StatusChange} {counts : List CountChange}

theorem foldl_addStatus (h : ∀ c ∈ statuses, c.IsListed) (files : Files) :
    (rows 2 (statusListing statuses)).foldl addStatus files =
      statuses.foldl (fun files c => files.insert c.path c.file) files := by
  rw [statusListing, foldl_rows (fun c hc => (h c hc).row) (by simp [Row.fields])]
  refine List.foldl_ext _ _ _ fun files c _ => ?_
  rw [StatusChange.file, ← c.statusOfCode_code]
  rfl

theorem foldl_addCounts (h : ∀ c ∈ counts, IsListedPath c.path) (files : Files) :
    (rows 3 (countListing counts)).foldl addCounts files =
      counts.foldl (fun files c => files.insert c.path (c.file (files.get? c.path))) files := by
  rw [countListing, foldl_rows (fun c hc => c.isListed_row (h c hc))
    (by simp [Row.fields, CountChange.row])]
  refine List.foldl_ext _ _ _ fun files c _ => ?_
  rw [CountChange.file, ← c.added.count?_text, ← c.deleted.count?_text]
  rfl

theorem mem_pathsOf {path : String} :
    path ∈ pathsOf statuses counts ↔
      path ∈ statuses.map StatusChange.path ∨ path ∈ counts.map CountChange.path := by
  rw [pathsOf, List.mem_append, List.mem_filter, decide_eq_true_iff]
  tauto

theorem nodup_pathsOf (hstatuses : (statuses.map StatusChange.path).Nodup)
    (hcounts : (counts.map CountChange.path).Nodup) : (pathsOf statuses counts).Nodup := by
  refine List.nodup_append.mpr ⟨hstatuses, hcounts.filter _, ?_⟩
  rintro path hpath other hother rfl
  simpa [hpath] using (List.mem_filter.mp hother).2

/-- What is known of a path, from the change of its counts or else of its status, is its record. -/
theorem or_find?_eq_record {path : String} (h : path ∈ pathsOf statuses counts) :
    ((counts.find? (·.path = path)).map
        (CountChange.file ((statuses.find? (·.path = path)).map StatusChange.file))).or
      ((statuses.find? (·.path = path)).map StatusChange.file) =
      some (record Count.read? statuses counts path) := by
  have hstatus : ((statuses.find? (·.path = path)).map StatusChange.file).bind ChangedFile.status =
      (statuses.find? (·.path = path)).map fun c => c.kind.status := by
    rw [Option.bind_map]
    exact Option.map_eq_bind.symm
  rw [record]
  cases hcount : counts.find? (·.path = path) with
  | some c =>
    have hc : c.path = path := by simpa using List.find?_some hcount
    simp [CountChange.file, hc, hstatus]
  | none =>
    cases hfind : statuses.find? (·.path = path) with
    | some c =>
      have hc : c.path = path := by simpa using List.find?_some hfind
      simp [StatusChange.file, hc]
    | none =>
      rw [List.find?_eq_none] at hcount hfind
      simp only [mem_pathsOf, List.mem_map] at h
      grind

/-- Two listings give one record for each path, with the counts that are read. -/
theorem changedFiles_eq_records (hstatuses : ∀ c ∈ statuses, c.IsListed)
    (hcounts : ∀ c ∈ counts, IsListedPath c.path)
    (hstatusPaths : (statuses.map StatusChange.path).Nodup)
    (hcountPaths : (counts.map CountChange.path).Nodup) :
    changedFiles (statusListing statuses) (countListing counts) =
      records Count.read? statuses counts := by
  rw [changedFiles, foldl_addStatus hstatuses, foldl_addCounts hcounts]
  set listed : Files := statuses.foldl (fun files c => files.insert c.path c.file) .empty
    with hlisted
  set merged : Files := counts.foldl
    (fun files c => files.insert c.path (c.file (files.get? c.path))) listed with hmerged
  have hlistedKeys : listed.keys = statuses.map StatusChange.path := by
    rw [hlisted, OrderedMap.keys_foldl_insert (v := fun _ => StatusChange.file)
      (fun _ _ => rfl) hstatusPaths (m := .empty)
      List.nodup_nil]
    simp [OrderedMap.keys, OrderedMap.empty]
  have hkeys : merged.keys = pathsOf statuses counts := by
    rw [hmerged, OrderedMap.keys_foldl_insert (v := CountChange.file)
      (fun _ _ => rfl) hcountPaths (hlistedKeys ▸ hstatusPaths), hlistedKeys, pathsOf]
  have hlistedGet : ∀ path,
      listed.get? path = (statuses.find? (·.path = path)).map StatusChange.file := by
    intro path
    rw [hlisted, OrderedMap.get?_foldl (v := fun _ => StatusChange.file)
      (fun _ _ => rfl) hstatusPaths, OrderedMap.get?_empty, Option.or_none]
  have hget : ∀ path, merged.get? path =
      ((counts.find? (·.path = path)).map (CountChange.file (listed.get? path))).or
        (listed.get? path) :=
    OrderedMap.get?_foldl (v := CountChange.file) (fun _ _ => rfl)
      hcountPaths listed
  have hnodup := nodup_pathsOf hstatusPaths hcountPaths
  rw [OrderedMap.values_eq (hkeys ▸ hnodup), hkeys, records, ← List.filterMap_eq_map]
  apply List.filterMap_congr
  intro path hpath
  rw [hget, hlistedGet, Function.comp_apply, or_find?_eq_record hpath]

/-- Two listings give one record for each path, those of the listing of statuses in front: with the
status that its letter means, and with the counts as they are meant iff all of them are short. -/
theorem changedFiles_records_iff (hstatuses : ∀ c ∈ statuses, c.IsListed)
    (hcounts : ∀ c ∈ counts, IsListedPath c.path)
    (hstatusPaths : (statuses.map StatusChange.path).Nodup)
    (hcountPaths : (counts.map CountChange.path).Nodup) :
    changedFiles (statusListing statuses) (countListing counts) =
        records Count.read? statuses counts ∧
      (changedFiles (statusListing statuses) (countListing counts) =
          records Count.value? statuses counts ↔
        ∀ c ∈ counts, c.IsShort) := by
  have heq := changedFiles_eq_records hstatuses hcounts hstatusPaths hcountPaths
  refine ⟨heq, ?_⟩
  rw [heq, records, records, List.map_inj_left]
  constructor
  · intro hsame c hc
    have hmem : c.path ∈ pathsOf statuses counts :=
      mem_pathsOf.mpr (Or.inr (List.mem_map_of_mem hc))
    have hfind := find?_eq_some_of_nodup hcountPaths hc
    have hrecord := hsame c.path hmem
    simp only [record, hfind, Option.bind_some, ChangedFile.mk.injEq] at hrecord
    exact ⟨c.added.read?_eq_value?_iff.mp hrecord.2.1,
      c.deleted.read?_eq_value?_iff.mp hrecord.2.2.1⟩
  · intro hshort path _
    rw [record, record]
    cases hcount : counts.find? (·.path = path) with
    | none => rfl
    | some c =>
      obtain ⟨hadded, hdeleted⟩ := hshort c (List.mem_of_find?_eq_some hcount)
      simp only [Option.bind_some, c.added.read?_eq_value?_iff.mpr hadded,
        c.deleted.read?_eq_value?_iff.mpr hdeleted]

/-- A file with a new name, and a new file. -/
def renamedAndNew : List StatusChange :=
  [⟨.renamed, [0, 9, 0], some "old/name.py", "new/name.py"⟩, ⟨.added, [], none, "docs/readme.md"⟩]

/-- A picture, and the file with a new name. -/
def pictureAndRenamed : List CountChange :=
  [⟨.binary, .binary, "assets/logo.png"⟩, ⟨.lines 0 10, .lines 0 2, "new/name.py"⟩]

theorem changedFiles_records_pictureAndRenamed :
    statusListing renamedAndNew = "R090\told/name.py\tnew/name.py\nA\tdocs/readme.md\n" ∧
      countListing pictureAndRenamed = "-\t-\tassets/logo.png\n10\t2\tnew/name.py\n" ∧
      changedFiles (statusListing renamedAndNew) (countListing pictureAndRenamed) =
        [⟨"new/name.py", some 10, some 2, none, some "renamed"⟩,
          ⟨"docs/readme.md", none, none, none, some "added"⟩,
          ⟨"assets/logo.png", none, none, none, none⟩] := by
  have hrecords := @changedFiles_records_iff renamedAndNew pictureAndRenamed
    (by decide +kernel) (by decide +kernel) (by decide) (by decide)
  refine ⟨by decide, by decide, ?_⟩
  exact (hrecords.2.mpr (by decide)).trans (by decide)

/-- Counts of added lines with one digit too many: one with zeros in front, and a power of ten. -/
def longCounts : List CountChange :=
  [⟨.lines maxIntegerDigits 1, .lines 0 2, "src/a.py"⟩,
    ⟨.lines 0 (Nat.pow 10 maxIntegerDigits), .lines 0 2, "src/b.py"⟩]

/-- A count with too many digits is lost like that of a binary file, though nothing else in its row
is. -/
theorem not_records_longCounts :
    (∀ c ∈ longCounts, IsListedPath c.path) ∧ (longCounts.map CountChange.path).Nodup ∧
      changedFiles (statusListing []) (countListing longCounts) =
        [⟨"src/a.py", none, some 2, none, none⟩, ⟨"src/b.py", none, some 2, none, none⟩] ∧
      changedFiles (statusListing []) (countListing longCounts) ≠
        records Count.value? [] longCounts := by
  have hlisted : ∀ c ∈ longCounts, IsListedPath c.path := by decide +kernel
  have hnodup : (longCounts.map CountChange.path).Nodup := by decide +kernel
  have hlost : records Count.read? [] longCounts =
      [⟨"src/a.py", none, some 2, none, none⟩, ⟨"src/b.py", none, some 2, none, none⟩] := by
    decide +kernel
  have hfiles := @changedFiles_eq_records [] longCounts (by simp) hlisted List.nodup_nil hnodup
  refine ⟨hlisted, hnodup, hfiles.trans hlost, ?_⟩
  rw [hfiles, hlost]
  decide +kernel

end Triage.Listing
