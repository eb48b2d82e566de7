import Triage.Diff.Patch
import Triage.Proofs.Diff.Numbering
import Triage.Proofs.Text.Tidy

/-!
# Rows of a rendered diff

A diff is written in rows: two with the names of each file, one for the header of each hunk, and one
for each entry behind its mark. Each row is read as what it was written for: a number as its decimal
digits (`number?_toDigits`), a header as the names or the numbers in it, and an entry as itself,
whatever it says (`ofLine?_row`).
-/

namespace Triage

open Diff

/-! ### Writing -/

/-- The mark in front of a line of a hunk. -/
def LineKind.mark : LineKind → String
  | add => "+"
  | del => "-"
  | normal => " "

def Entry.row (e : Entry) : String :=
  e.kind.mark ++ e.content

namespace Hunk

/-- The first line and the count of lines of a side, as in the header of a hunk. -/
def span (h : Hunk) (side : Side) : String :=
  toString (h.start side) ++ "," ++ toString (h.entriesOn side).length

def headerRow (h : Hunk) : String :=
  "@@ -" ++ h.span .left ++ " +" ++ h.span .right ++ " @@"

def rows (h : Hunk) : List String :=
  h.headerRow :: h.entries.map Entry.row

end Hunk

def FileDiff.rows (f : FileDiff) : List String :=
  ("--- " ++ ("a/" ++ f.path)) :: ("+++ " ++ ("b/" ++ f.path)) :: f.hunks.flatMap Hunk.rows

/-- The text of rows, each of which ends with a line feed. -/
def textOfRows (rows : List String) : String :=
  String.join (rows.map (· ++ "\n"))

/-- The text of a diff. -/
def renderDiff (files : List FileDiff) : String :=
  textOfRows (files.flatMap FileDiff.rows)

/-! ### Rows as lines -/

/-- The line of a row. -/
def lineOfRow (row : String) : List Char :=
  row.toList ++ ['\n']

theorem lineOfRow_append (word row : String) :
    lineOfRow (word ++ row) = word.toList ++ lineOfRow row := by
  rw [lineOfRow, String.toList_append, List.append_assoc]
  rfl

theorem feedLines_append_feed {line : List Char} (h : '\n' ∉ line) (rest : List Char) :
    Text.feedLines (line ++ '\n' :: rest) = (line ++ ['\n']) :: Text.feedLines rest := by
  induction line with
  | nil => rfl
  | cons c line ih =>
    have hc : c ≠ '\n' := fun hc => h (hc ▸ List.mem_cons_self ..)
    have hline := ih fun hmem => h (List.mem_cons_of_mem _ hmem)
    unfold Text.feedLines at hline ⊢
    rw [List.cons_append, List.foldr_cons, if_neg hc, hline]
    rfl

theorem toList_textOfRows_cons (row : String) (rows : List String) :
    (textOfRows (row :: rows)).toList = row.toList ++ '\n' :: (textOfRows rows).toList := by
  simp [textOfRows, String.toList_join, String.toList_append]

/-- A text is cut into its rows again. -/
theorem feedLines_textOfRows {rows : List String} (h : ∀ row ∈ rows, '\n' ∉ row.toList) :
    Text.feedLines (textOfRows rows).toList = rows.map lineOfRow := by
  induction rows with
  | nil => rfl
  | cons row rows ih =>
    rw [toList_textOfRows_cons, feedLines_append_feed (h row (List.mem_cons_self ..)),
      ih fun other hmem => h other (List.mem_cons_of_mem _ hmem)]
    rfl

/-! ### Numbers -/

namespace Diff

theorem digitValue?_of_isDigit {c : Char} (h : c.isDigit = true) :
    Text.digitValue? c = some (c.toNat - '0'.toNat) := by
  have hascii : c.toNat < 0x80 := by
    rw [Char.isDigit_iff_toNat, show '9'.toNat = 57 from rfl] at h
    omega
  rw [Text.digitValue?, if_pos hascii, if_pos h]
  rfl

theorem isDigit_of_mem_toDigits {n : ℕ} {c : Char} (h : c ∈ Nat.toDigits 10 n) :
    c.isDigit = true :=
  Nat.isDigit_of_mem_toDigits (by decide) (by decide) h

/-- The number that is written with the decimal digits of a number. -/
def Numeral.ofNat (n : ℕ) : Numeral :=
  ⟨(Nat.toDigits 10 n).map fun c => c.toNat - '0'.toNat⟩

theorem filterMap_digitValue?_toDigits (n : ℕ) :
    (Nat.toDigits 10 n).filterMap Text.digitValue? = (Numeral.ofNat n).digits := by
  rw [Numeral.ofNat, ← List.filterMap_eq_map]
  apply List.filterMap_congr
  intro c hc
  exact digitValue?_of_isDigit (isDigit_of_mem_toDigits hc)

@[simp]
theorem Numeral.value_ofNat (n : ℕ) : (Numeral.ofNat n).value = n := by
  rw [Numeral.value, Numeral.ofNat, ofDigits, List.foldl_map]
  simp only [Nat.mul_comm _ 10]
  exact Nat.ofDigitChars_ten_toDigits

theorem Numeral.length_digits_ofNat_le (n : ℕ) {k : ℕ} (hk : 0 < k) :
    (Numeral.ofNat n).digits.length ≤ k ↔ n < Nat.pow 10 k := by
  rw [Numeral.ofNat, List.length_map]
  exact Nat.length_toDigits_le_iff (by decide) hk

/-- The digits of a number are read up to what is no digit. -/
theorem number?_toDigits (n : ℕ) {c : Char} (hc : Text.isDecimalDigit c = false)
    (rest : List Char) :
    number? (Nat.toDigits 10 n ++ c :: rest) = some (.ofNat n, c :: rest) := by
  have hdigits : ∀ d ∈ Nat.toDigits 10 n, Text.isDecimalDigit d = true := by
    intro d hd
    rw [Text.isDecimalDigit, digitValue?_of_isDigit (isDigit_of_mem_toDigits hd)]
    rfl
  have hne : (Nat.toDigits 10 n).isEmpty = false := by
    rw [List.isEmpty_eq_false_iff, ← List.length_pos_iff]
    exact Nat.length_toDigits_pos
  rw [number?, List.takeWhile_append_of_pos hdigits, List.dropWhile_append_of_pos hdigits]
  simp [hc, hne, filterMap_digitValue?_toDigits]

/-! ### Headers -/

@[simp]
theorem after?_append (word : String) (rest : List Char) :
    after? word (word.toList ++ rest) = some rest := by
  have hprefix : word.toList.isPrefixOf (word.toList ++ rest) = true :=
    List.isPrefixOf_iff_prefix.mpr (List.prefix_append ..)
  rw [after?, if_pos hprefix, ← String.length_toList, List.drop_left]

theorem takeWhile_isNameChar {name : String} (h : ∀ c ∈ name.toList, isNameChar c = true) :
    String.ofList ((lineOfRow name).takeWhile isNameChar) = name := by
  rw [lineOfRow, List.takeWhile_append_of_pos h]
  simp [isNameChar]

theorem ofLine_source {name : String} (h : ∀ c ∈ name.toList, isNameChar c = true) :
    Header.ofLine (lineOfRow ("--- " ++ name)) = .source name := by
  rw [lineOfRow_append]
  exact congrArg Header.source (takeWhile_isNameChar h)

theorem ofLine_target {name : String} (h : ∀ c ∈ name.toList, isNameChar c = true) :
    Header.ofLine (lineOfRow ("+++ " ++ name)) = .target name := by
  rw [lineOfRow_append]
  exact congrArg Header.target (takeWhile_isNameChar h)

/-- The numbers in the header of a hunk. -/
def rangeOf (h : Hunk) : HunkRange where
  leftStart := .ofNat h.leftStart
  leftLength := .ofNat (h.entriesOn .left).length
  rightStart := .ofNat h.rightStart
  rightLength := .ofNat (h.entriesOn .right).length

theorem toList_span (h : Hunk) (side : Side) :
    (h.span side).toList =
      Nat.toDigits 10 (h.start side) ++ ',' :: Nat.toDigits 10 (h.entriesOn side).length := by
  rw [Hunk.span, String.toList_append, String.toList_append, Nat.toString_eq_repr,
    Nat.toString_eq_repr, Nat.toList_repr, Nat.toList_repr, List.append_assoc]
  rfl

theorem span?_span (h : Hunk) (side : Side) {c : Char} (hc : Text.isDecimalDigit c = false)
    (rest : List Char) :
    span? ((h.span side).toList ++ c :: rest) =
      some (.ofNat (h.start side), .ofNat (h.entriesOn side).length, c :: rest) := by
  have hcomma : Text.isDecimalDigit ',' = false := by decide
  rw [toList_span, List.append_assoc, List.cons_append, span?, number?_toDigits _ hcomma]
  simp [number?_toDigits _ hc]

theorem lineOfRow_headerRow (h : Hunk) :
    lineOfRow h.headerRow =
      "@@ -".toList ++ ((h.span .left).toList ++ ' ' :: '+' ::
        ((h.span .right).toList ++ ' ' :: '@' :: '@' :: ['\n'])) := by
  simp [lineOfRow, Hunk.headerRow]

theorem hunkRange?_headerRow (h : Hunk) :
    hunkRange? (lineOfRow h.headerRow) = some (rangeOf h) := by
  have hspace : Text.isDecimalDigit ' ' = false := by decide
  have hplus : ∀ rest, after? " +" (' ' :: '+' :: rest) = some rest := after?_append " +"
  have hend : after? " @@" [' ', '@', '@', '\n'] = some ['\n'] := after?_append " @@" ['\n']
  rw [lineOfRow_headerRow, hunkRange?, after?_append]
  simp [span?_span _ _ hspace, hplus, hend, rangeOf, Hunk.start]

theorem feed_notMem_span (h : Hunk) (side : Side) : '\n' ∉ (h.span side).toList := by
  have hdigits : ∀ n, '\n' ∉ Nat.toDigits 10 n := by
    intro n hmem
    exact absurd (isDigit_of_mem_toDigits hmem) (by decide)
  rw [toList_span, List.mem_append, List.mem_cons]
  rintro (hstart | hcomma | hlength)
  · exact hdigits _ hstart
  · exact absurd hcomma (by decide)
  · exact hdigits _ hlength

theorem feed_notMem_headerRow (h : Hunk) : '\n' ∉ h.headerRow.toList := by
  simp [Hunk.headerRow, feed_notMem_span]

theorem ofLine_of_hunkRange? {rest : List Char} {range : HunkRange}
    (h : hunkRange? ('@' :: rest) = some range) : Header.ofLine ('@' :: rest) = .hunk range := by
  -- The first character rules out every form that is tried before that of a hunk.
  have hnames : fileNames? ('@' :: rest) = none := rfl
  have hmodes : ∀ start ∈ ["new file mode ", "deleted file mode ", "old mode ", "new mode "],
      isNumbered start ('@' :: rest) = false := by
    simp only [List.forall_mem_cons]
    exact ⟨rfl, rfl, rfl, rfl, by simp⟩
  have hchecksums : isChecksums ('@' :: rest) = false := rfl
  have hmarks : after? "--- " ('@' :: rest) = none ∧ after? "+++ " ('@' :: rest) = none :=
    ⟨rfl, rfl⟩
  unfold Header.ofLine
  simp [hnames, hmodes, hchecksums, hmarks, h]

theorem ofLine_headerRow (h : Hunk) :
    Header.ofLine (lineOfRow h.headerRow) = .hunk (rangeOf h) := by
  have hrange := hunkRange?_headerRow h
  rw [lineOfRow_headerRow] at hrange ⊢
  exact ofLine_of_hunkRange? hrange

/-! ### Entries -/

theorem contentOf_lineOfRow {content : String} (h : '\n' ∉ content.toList) :
    contentOf (lineOfRow content) = content := by
  have hkept : content.toList.rdropWhile (· == '\n') = content.toList := by
    rw [List.rdropWhile_eq_self_iff]
    intro hne hlast
    exact h (eq_of_beq hlast ▸ List.getLast_mem hne)
  rw [contentOf, lineOfRow, Text.dropTrailing_eq_rdropWhile,
    List.rdropWhile_concat_pos _ _ _ (by decide), hkept, String.ofList_toList]

theorem feed_notMem_row {e : Entry} (h : '\n' ∉ e.content.toList) : '\n' ∉ e.row.toList := by
  have hmark : '\n' ∉ e.kind.mark.toList := by
    cases e.kind with
    | add => decide
    | del => decide
    | normal => decide
  rw [Entry.row, String.toList_append, List.mem_append]
  exact not_or.mpr ⟨hmark, h⟩

/-- The mark tells what a row is, so that no content can be taken for anything else. -/
theorem ofLine?_row {e : Entry} (h : '\n' ∉ e.content.toList) :
    BodyLine.ofLine? (lineOfRow e.row) = some (.entry e) := by
  have hmark : BodyLine.ofLine? (e.kind.mark.toList ++ lineOfRow e.content) =
      some (.entry ⟨e.kind, contentOf (lineOfRow e.content)⟩) := by
    cases e.kind with
    | add => rfl
    | del => rfl
    | normal => rfl
  rw [Entry.row, lineOfRow_append, hmark, contentOf_lineOfRow h]

end Diff

end Triage
