import Triage.Proofs.Diff.Lookup
import Triage.Proofs.Digest

/-!
# What an index tells of a place agrees

Whether the line of a place is in the diff, the hash of its hunk and the hash of its context are
asked for apart, and say the same: the line is one of those of its file iff the hashes are not empty
(`DiffIndex.agrees`). A hunk that has the line has an entry for it, and its context holds that entry
(`Hunk.mem_context`).
-/

namespace Triage

variable {index : DiffIndex} {a : Anchor} {h : Hunk}

/-! ### Lines -/

theorem DiffIndex.hasLine_iff :
    index.hasLine a = true ↔
      ∃ f, index.file? a.path = some f ∧ ∃ n ∈ f.lines a.side, (n : Int) = a.line := by
  unfold DiffIndex.hasLine
  simp only [Option.any_eq_true, List.any_eq_true, Hunk.hasLine_iff, FileDiff.mem_lines]
  constructor
  · rintro ⟨f, hf, h, hh, n, hn, hline⟩
    exact ⟨f, hf, n, ⟨h, hh, hn⟩, hline⟩
  · rintro ⟨f, hf, n, ⟨h, hh, hn⟩, hline⟩
    exact ⟨f, hf, h, hh, n, hn, hline⟩

/-- A line is in the diff iff some hunk is the first that has it. -/
theorem DiffIndex.hasLine_iff_hunkAt? :
    index.hasLine a = true ↔ ∃ h, index.hunkAt? a = some h := by
  unfold DiffIndex.hasLine DiffIndex.hunkAt?
  cases index.file? a.path with
  | none => simp
  | some f => simp [← Option.isSome_iff_exists]

theorem DiffIndex.hasLine_of_hunkAt? (h_at : index.hunkAt? a = some h) :
    h.hasLine a.side a.line = true := by
  obtain ⟨f, -, hfirst⟩ := Option.bind_eq_some_iff.mp h_at
  have hline := List.find?_some hfirst
  exact hline

/-! ### Hashes -/

theorem Digest.Sha256.hex_ne_empty (text : String) : Digest.Sha256.hex text ≠ "" := by
  intro hempty
  have hlength := Digest.Sha256.length_hex text
  rw [hempty] at hlength
  exact absurd hlength (by decide)

/-- A hash of the hunk at a place is missing only where there is no hunk. -/
theorem DiffIndex.hash_ne_empty_iff {text : Hunk → String} :
    ((index.hunkAt? a).map fun h => Digest.Sha256.hex (text h)).getD "" ≠ "" ↔
      index.hasLine a = true := by
  rw [hasLine_iff_hunkAt?]
  cases index.hunkAt? a with
  | none => simp
  | some h => simp [Digest.Sha256.hex_ne_empty]

/-! ### Contexts -/

/-- What is around an entry holds it. -/
theorem Hunk.mem_around {entries : List Entry} {k : ℕ} {e : Entry} (h : entries[k]? = some e) :
    e ∈ around entries k := by
  apply List.mem_of_getElem? (i := min k contextRadius)
  have hplace : k - contextRadius + min k contextRadius = k := by omega
  have hinside : min k contextRadius < min k contextRadius + contextRadius + 1 := by omega
  unfold around
  rw [List.getElem?_take_of_lt hinside, List.getElem?_drop, hplace, h]

/-- The context of a line holds the entry of the line. -/
theorem Hunk.mem_context {side : Side} {n : ℕ} {e : Entry} (hn : (n, e) ∈ h.changes side) :
    e ∈ h.context side n := by
  rw [changes_eq, List.mem_map] at hn
  obtain ⟨⟨e', n'⟩, hmem, heq⟩ := hn
  obtain ⟨rfl, rfl⟩ := Prod.mk.inj heq
  obtain ⟨k, hk⟩ := List.mem_iff_getElem?.mp hmem
  rw [List.getElem?_zipIdx, Option.map_eq_some_iff] at hk
  obtain ⟨e'', he, heq⟩ := hk
  obtain ⟨rfl, rfl⟩ := Prod.mk.inj heq
  obtain ⟨hlt, -⟩ := List.getElem?_eq_some_iff.mp he
  rw [context_eq hlt]
  exact mem_around he

/-! ### Agreement -/

/-- Whether what an index tells of a place agrees: the line is one of its file iff it has either
hash, and the context that is hashed is that of the line. -/
structure DiffIndex.Agrees (index : DiffIndex) (a : Anchor) : Prop where
  lines : index.hasLine a = true ↔
    ∃ f, index.file? a.path = some f ∧ ∃ n ∈ f.lines a.side, (n : Int) = a.line
  hunkHash : index.hasLine a = true ↔ index.hunkHash a ≠ ""
  contextHash : index.hasLine a = true ↔ index.contextHash a ≠ ""
  context : ∀ h, index.hunkAt? a = some h →
    ∃ (n : ℕ) (e : Entry), (n : Int) = a.line ∧ (n, e) ∈ h.changes a.side ∧
      e ∈ h.context a.side a.line

theorem DiffIndex.agrees (index : DiffIndex) (a : Anchor) : index.Agrees a where
  lines := hasLine_iff
  hunkHash := hash_ne_empty_iff.symm
  contextHash := hash_ne_empty_iff.symm
  context := by
    intro h h_at
    obtain ⟨n, hn, hline⟩ := Hunk.hasLine_iff.mp (hasLine_of_hunkAt? h_at)
    obtain ⟨⟨n', e⟩, hchange, rfl⟩ := List.mem_map.mp hn
    refine ⟨n', e, hline, hchange, ?_⟩
    rw [← hline]
    exact Hunk.mem_context hchange

end Triage
