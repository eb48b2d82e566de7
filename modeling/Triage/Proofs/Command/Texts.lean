import Triage.Command.Basic
import Triage.Proofs.Guards
import Triage.Proofs.Json.Characters
import Triage.Proofs.Json.Roundtrip

/-!
# Texts in files

A text without carriage returns is read from a file as it was written to it (`readText_of_holds`),
and so is a document (`readDocument_of_holds`).
-/

namespace Triage.Command

variable {files : Files} {file : String}

theorem unifyLineEnds_eq_self {cs : List Char} (h : '\r' ∉ cs) : Text.unifyLineEnds cs = cs := by
  fun_induction Text.unifyLineEnds cs with
  | case1 => rfl
  | case2 rest ih => exact absurd (List.mem_cons_self ..) h
  | case3 rest _ ih => exact absurd (List.mem_cons_self ..) h
  | case4 c rest _ _ ih => rw [ih fun hmem => h (List.mem_cons_of_mem _ hmem)]

/-- Whether a file has a text in it. -/
def Holds (files : Files) (file text : String) : Prop :=
  files file = .ok text.toUTF8.data.toList

theorem fromUTF8?_toUTF8 (text : String) : String.fromUTF8? text.toUTF8 = some text := by
  unfold String.fromUTF8?
  rw [dif_pos (show text.toUTF8.IsValidUTF8 from text.isValidUTF8)]
  rfl

/-- A text without carriage returns is read from a file as it is. -/
theorem readText_of_holds {text : String} (h : Holds files file text)
    (hplain : '\r' ∉ text.toList) : readText files file = .ok text := by
  have hdecode : decode? text.toUTF8.data.toList = some text := by
    rw [decode?, Array.toArray_toList, fromUTF8?_toUTF8, Option.map_some,
      unifyLineEnds_eq_self hplain, String.ofList_toList]
  unfold readText
  rw [h]
  simp only [hdecode]
  rfl

theorem notMem_render (v : Value) : '\r' ∉ (render v).toList := by
  have hline : Json.IsAsciiText "\n" := by decide
  intro hmem
  have hascii := (Json.isAsciiText_write 0 v).append hline '\r' hmem
  exact absurd hascii (by decide)

/-- A document is read from the file that it was written to. -/
theorem readDocument_of_holds [Nesting] {v : Value} (h : Holds files file (render v))
    (hdocument : Json.IsDocument Nesting.brackets v) (hshort : Json.hasShortIntegers v = true) :
    readDocument files file = .ok (Json.reread v) := by
  unfold readDocument
  rw [readText_of_holds h (notMem_render v)]
  show (Json.read (Json.indented v ++ "\n")).mapError _ = _
  rw [Json.read_indented hdocument hshort]
  rfl

/-- Files by name with the texts in them. -/
def textFiles (texts : List (String × String)) : Files := fun file =>
  match texts.lookup file with
  | some text => .ok text.toUTF8.data.toList
  | none => .error .missing

theorem holds_textFiles {texts : List (String × String)} {text : String}
    (h : texts.lookup file = some text) : Holds (textFiles texts) file text := by
  unfold Holds textFiles
  rw [h]

/-- The options that name a diff and a review. -/
def reviewOptions : Options := [("--diff", "d.diff"), ("--findings", "f.json")]

end Triage.Command
