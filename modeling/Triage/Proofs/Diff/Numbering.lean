import Triage.Diff.Index
import Mathlib.Data.List.Range

/-!
# The numbers of the lines of a hunk

On each side, the entries of a hunk that exist there are numbered one after another from the number
in its header on (`Hunk.changes_eq`). So the line that lies `k` lines below the first one of a side
is the `k`-th entry of that side, whatever the number of the first one (`Hunk.context_eq`).
-/

namespace Triage.Hunk

variable {h : Hunk} {side : Side}

/-- The entries that exist on a side. -/
def entriesOn (h : Hunk) (side : Side) : List Entry :=
  h.entries.filter (·.kind.isOn side)

theorem numberFrom_eq (side : Side) (line : ℕ) (entries : List Entry) :
    numberFrom side line entries =
      ((entries.filter (·.kind.isOn side)).zipIdx line).map Prod.swap := by
  induction entries generalizing line with
  | nil => rfl
  | cons e rest ih =>
    rw [numberFrom, List.filter_cons]
    split_ifs with hon
    · rw [List.zipIdx_cons, List.map_cons, ih]
      rfl
    · exact ih line

theorem changes_eq (h : Hunk) (side : Side) :
    h.changes side = ((h.entriesOn side).zipIdx (h.start side)).map Prod.swap :=
  numberFrom_eq side _ _

theorem lines_eq (h : Hunk) (side : Side) :
    h.lines side = List.range' (h.start side) (h.entriesOn side).length := by
  rw [lines, changes_eq, List.map_map, ← List.zipIdx_map_snd]
  rfl

@[simp]
theorem map_snd_changes (h : Hunk) (side : Side) :
    (h.changes side).map Prod.snd = h.entriesOn side := by
  have hfst := List.zipIdx_map_fst (h.start side) (h.entriesOn side)
  rw [changes_eq, List.map_map]
  exact hfst

@[simp]
theorem length_changes (h : Hunk) (side : Side) :
    (h.changes side).length = (h.entriesOn side).length := by
  rw [← map_snd_changes, List.length_map]

theorem getElem_changes {i : ℕ} (hi : i < (h.changes side).length) :
    (h.changes side)[i].1 = h.start side + i := by
  simp [changes_eq]

theorem hasLine_iff {line : Int} :
    h.hasLine side line = true ↔ ∃ n ∈ h.lines side, (n : Int) = line := by
  simp [hasLine]

theorem hasLine_of_offset {k : ℕ} (hk : k < (h.entriesOn side).length) :
    h.hasLine side ((h.start side + k : ℕ) : Int) = true := by
  rw [hasLine_iff]
  refine ⟨h.start side + k, ?_, rfl⟩
  rw [lines_eq, List.mem_range'_1]
  omega

/-- The entries around the one at a place of a list, as many on either hand as a context holds. -/
def around (entries : List Entry) (k : ℕ) : List Entry :=
  (entries.drop (k - contextRadius)).take (min k contextRadius + contextRadius + 1)

/-- The context of a line is told by its offset in the hunk. -/
theorem context_eq {k : ℕ} (hk : k < (h.entriesOn side).length) :
    h.context side ((h.start side + k : ℕ) : Int) = around (h.entriesOn side) k := by
  have hlen : k < (h.changes side).length := by rwa [length_changes]
  have hplace : (h.changes side).findIdx
      (fun c => (c.1 : Int) = ((h.start side + k : ℕ) : Int)) = k := by
    rw [List.findIdx_eq hlen]
    constructor
    · simp [getElem_changes]
    · intro j hj
      simp only [getElem_changes, decide_eq_false_iff_not]
      omega
  unfold context around
  dsimp only
  rw [hplace, List.map_take, List.map_drop, map_snd_changes]

end Triage.Hunk
