import Triage.Proofs.Diff.Origins
import Triage.Proofs.Diff.Window
import Mathlib.Data.Set.Function

/-!
# What a signature tells of a hunk

A signature is cut at its line feeds into one label for each entry, and a label at its first colon
into the kind and the content (`Entry.label_injective`). So entries without line feeds are told by
their signature, whatever else they say (`signature_injOn`), and the entries of a patch are such.
As far as digests are told apart, hunks of any patches have one hash iff they have the same entries
in the same order (`signatures_tell_entries`).
-/

namespace Triage

/-! ### Labels -/

/-- An entry as it stands in a signature. -/
def Entry.label (e : Entry) : String :=
  Vocabulary.word e.kind ++ ":" ++ e.content

theorem Entry.toList_label (e : Entry) :
    e.label.toList = (Vocabulary.word e.kind).toList ++ ':' :: e.content.toList := by
  rw [label, String.toList_append, String.toList_append, List.append_assoc]
  rfl

/-- The words for kinds have neither colons nor line feeds. -/
theorem separators_notMem_word (kind : LineKind) :
    ':' ∉ (Vocabulary.word kind).toList ∧ '\n' ∉ (Vocabulary.word kind).toList := by
  cases kind with
  | add => decide
  | del => decide
  | normal => decide

theorem LineKind.word_injective : Function.Injective (Vocabulary.word (α := LineKind)) := by
  have hspelled : ∀ kind : LineKind, Vocabulary.ofWord? (Vocabulary.word kind) = some kind := by
    rintro (_ | _ | _) <;> decide
  intro kind kind' h
  rw [← Option.some.injEq, ← hspelled kind, h, hspelled kind']

theorem ne_colon_of_mem_word {kind : LineKind} {c : Char}
    (hc : c ∈ (Vocabulary.word kind).toList) : decide (c ≠ ':') = true := by
  rw [decide_eq_true_eq]
  rintro rfl
  exact (separators_notMem_word kind).1 hc

/-- The kind of an entry is what stands in front of the first colon of its label. -/
theorem Entry.takeWhile_label (e : Entry) :
    e.label.toList.takeWhile (· ≠ ':') = (Vocabulary.word e.kind).toList := by
  rw [toList_label, List.takeWhile_append_of_pos fun _ => ne_colon_of_mem_word]
  simp

/-- The content of an entry is what stands behind the first colon of its label. -/
theorem Entry.dropWhile_label (e : Entry) :
    e.label.toList.dropWhile (· ≠ ':') = ':' :: e.content.toList := by
  rw [toList_label, List.dropWhile_append_of_pos fun _ => ne_colon_of_mem_word]
  simp

theorem Entry.label_injective : Function.Injective Entry.label := by
  intro e e' h
  have hkind : e.kind = e'.kind := by
    apply LineKind.word_injective
    rw [← String.toList_inj, ← takeWhile_label, ← takeWhile_label, h]
  have hcontent : ':' :: e.content.toList = ':' :: e'.content.toList := by
    rw [← dropWhile_label, ← dropWhile_label, h]
  cases e
  cases e'
  exact congrArg₂ Entry.mk hkind (String.toList_injective (List.cons.inj hcontent).2)

/-! ### Signatures -/

/-- Whether no content of some entries has a line feed. -/
def AreFeedless (entries : List Entry) : Prop :=
  ∀ e ∈ entries, '\n' ∉ e.content.toList

instance (entries : List Entry) : Decidable (AreFeedless entries) :=
  inferInstanceAs (Decidable (∀ e ∈ entries, '\n' ∉ e.content.toList))

theorem toList_signature (entries : List Entry) :
    (signature entries).toList = ['\n'].intercalate (entries.map fun e => e.label.toList) := by
  rw [signature, String.toList_intercalate, List.map_map]
  rfl

theorem feed_notMem_label {e : Entry} (h : '\n' ∉ e.content.toList) : '\n' ∉ e.label.toList := by
  rw [Entry.toList_label, List.mem_append, List.mem_cons]
  rintro (hword | hcolon | hcontent)
  · exact (separators_notMem_word e.kind).2 hword
  · exact absurd hcolon (by decide)
  · exact h hcontent

/-- A signature is cut into its labels again. -/
theorem splitOn_signature {entries : List Entry} (hne : entries ≠ []) (h : AreFeedless entries) :
    (signature entries).toList.splitOn '\n' = entries.map fun e => e.label.toList := by
  rw [toList_signature]
  apply List.splitOn_intercalate
  · exact List.forall_mem_map.mpr fun e he => feed_notMem_label (h e he)
  · simpa using hne

theorem signature_nil : signature [] = "" := by
  rw [signature, List.map_nil, String.intercalate_nil]

/-- No label is empty, so that the signature of entries is not that of none. -/
theorem signature_ne_empty {entries : List Entry} (hne : entries ≠ []) (h : AreFeedless entries) :
    signature entries ≠ "" := by
  intro hempty
  have hsplit := splitOn_signature hne h
  rw [hempty] at hsplit
  have hnil : [] ∈ entries.map fun e => e.label.toList := by
    rw [← hsplit]
    simp
  obtain ⟨e, -, he⟩ := List.mem_map.mp hnil
  rw [Entry.toList_label] at he
  simp at he

theorem signature_injOn : Set.InjOn signature {entries | AreFeedless entries} := by
  intro entries h entries' h' heq
  by_cases hne : entries = [] <;> by_cases hne' : entries' = []
  · rw [hne, hne']
  · rw [hne, signature_nil] at heq
    exact absurd heq.symm (signature_ne_empty hne' h')
  · rw [hne', signature_nil] at heq
    exact absurd heq (signature_ne_empty hne h)
  · have hlabels : Function.Injective fun e : Entry => e.label.toList :=
      fun _ _ hlabel => Entry.label_injective (String.toList_injective hlabel)
    apply hlabels.list_map
    rw [← splitOn_signature hne h, ← splitOn_signature hne' h', heq]

-- A content with a line feed could be taken for two.
example : ¬ AreFeedless [⟨.add, "one\nadd:two"⟩] ∧
    signature [⟨.add, "one\nadd:two"⟩] = signature [⟨.add, "one"⟩, ⟨.add, "two"⟩] := by
  decide +kernel

/-! ### Hunks of patches -/

/-- Whether a hunk is one of some patch. -/
def Hunk.IsOfPatch (h : Hunk) : Prop :=
  ∃ text sections, Diff.readPatch text = .ok sections ∧ ∃ s ∈ sections, h ∈ s.hunks

variable {h h' : Hunk}

theorem Hunk.IsOfPatch.areFeedless (hh : h.IsOfPatch) : AreFeedless h.entries := by
  obtain ⟨text, sections, hread, s, hs, hmem⟩ := hh
  exact Diff.feed_notMem_content hread hs hmem

/-- The hunk at a place in a patch is one of the patch. -/
theorem DiffIndex.isOfPatch_of_hunkAt? {text : String} {index : DiffIndex} {a : Anchor}
    (hindex : DiffIndex.ofPatch text = .ok index) (h_at : index.hunkAt? a = some h) :
    h.IsOfPatch := by
  obtain ⟨sections, hread, -, rfl⟩ := ofPatch_eq_ok_iff.mp hindex
  obtain ⟨-, s, before, after, hlast, hhunks, -⟩ := isFirstAt_of_hunkAt? h_at
  have hs : s ∈ sections := List.mem_reverse.mp (List.mem_of_find?_eq_some hlast)
  refine ⟨text, sections, hread, s, hs, ?_⟩
  rw [hhunks]
  exact List.mem_append_right _ (List.mem_cons_self ..)

theorem Hunk.IsOfPatch.hash_eq_iff (hh : h.IsOfPatch) (hh' : h'.IsOfPatch)
    (hdigest : Set.InjOn Digest.Sha256.hex {signature h.entries, signature h'.entries}) :
    h.hash = h'.hash ↔ h.entries = h'.entries :=
  (hdigest.eq_iff (Set.mem_insert ..) (Set.mem_insert_of_mem _ rfl)).trans
    (signature_injOn.eq_iff hh.areFeedless hh'.areFeedless)

/-- Entries without line feeds are told by their signature, the hunks of patches have such entries,
and as far as digests are told apart, two of them have one hash iff they have the same entries in
the same order; and so have the hunks at two places with one hunk hash. -/
theorem signatures_tell_entries :
    (∀ entries entries' : List Entry, AreFeedless entries → AreFeedless entries' →
      (signature entries = signature entries' ↔ entries = entries')) ∧
    (∀ h : Hunk, h.IsOfPatch → AreFeedless h.entries) ∧
    (∀ h h' : Hunk, h.IsOfPatch → h'.IsOfPatch →
      Set.InjOn Digest.Sha256.hex {signature h.entries, signature h'.entries} →
      (h.hash = h'.hash ↔ h.entries = h'.entries)) ∧
    ∀ (text text' : String) (index index' : DiffIndex) (a a' : Anchor) (h h' : Hunk),
      DiffIndex.ofPatch text = .ok index → DiffIndex.ofPatch text' = .ok index' →
      index.hunkAt? a = some h → index'.hunkAt? a' = some h' →
      Set.InjOn Digest.Sha256.hex {signature h.entries, signature h'.entries} →
      (index.hunkHash a = index'.hunkHash a' ↔ h.entries = h'.entries) := by
  refine ⟨?_, fun h hh => hh.areFeedless, fun h h' hh hh' => hh.hash_eq_iff hh', ?_⟩
  · intro entries entries' h h'
    exact signature_injOn.eq_iff h h'
  · intro text text' index index' a a' h h' hindex hindex' h_at h_at' hdigest
    have hh := DiffIndex.isOfPatch_of_hunkAt? hindex h_at
    have hh' := DiffIndex.isOfPatch_of_hunkAt? hindex' h_at'
    rw [DiffIndex.hunkHash, DiffIndex.hunkHash, h_at, h_at']
    exact hh.hash_eq_iff hh' hdigest

/-- A patch with a line that looks like two labels, with a separator of lines between them that is
no line feed. -/
def fusedPatch : String :=
  "--- a/x.py\n+++ b/x.py\n@@ -1 +1 @@\n-old: 1\n\\ No newline at end of file\n" ++
    "+one\u2028add:two\n\\ No newline at end of file\n"

def fusedHunk : Hunk :=
  ⟨1, 1, [⟨.del, "old: 1"⟩, ⟨.add, "one\u2028add:two"⟩]⟩

/-- A patch with these two lines. -/
def partedPatch : String :=
  "--- a/x.py\n+++ b/x.py\n@@ -1 +1,2 @@\n-old: 1\n+one\n+two\n"

def partedHunk : Hunk :=
  ⟨1, 1, [⟨.del, "old: 1"⟩, ⟨.add, "one"⟩, ⟨.add, "two"⟩]⟩

/-- The line in one and the lines in the other make different signatures, and the hashes of the two
hunks differ, as digests tell these signatures apart. -/
theorem signatures_tell_entries_partedHunk :
    fusedHunk.IsOfPatch ∧ partedHunk.IsOfPatch ∧
      Set.InjOn Digest.Sha256.hex {signature fusedHunk.entries, signature partedHunk.entries} ∧
      signature fusedHunk.entries ≠ signature partedHunk.entries ∧
      fusedHunk.hash ≠ partedHunk.hash ∧
      ∃ index index', DiffIndex.ofPatch fusedPatch = .ok index ∧
        DiffIndex.ofPatch partedPatch = .ok index' ∧
        index.hunkHash ⟨"x.py", .right, 1⟩ ≠ index'.hunkHash ⟨"x.py", .right, 1⟩ := by
  have hread : Diff.readPatch fusedPatch = .ok [⟨"a/x.py", "b/x.py", [fusedHunk]⟩] := by
    decide +kernel
  have hread' : Diff.readPatch partedPatch = .ok [⟨"a/x.py", "b/x.py", [partedHunk]⟩] := by
    decide +kernel
  have hindex := ofPatch_eq_ok_iff.mpr ⟨_, hread, by decide +kernel, rfl⟩
  have hindex' := ofPatch_eq_ok_iff.mpr ⟨_, hread', by decide +kernel, rfl⟩
  have hfused : fusedHunk.IsOfPatch :=
    ⟨_, _, hread, _, List.mem_singleton_self _, List.mem_singleton_self _⟩
  have hparted : partedHunk.IsOfPatch :=
    ⟨_, _, hread', _, List.mem_singleton_self _, List.mem_singleton_self _⟩
  have hentries : fusedHunk.entries ≠ partedHunk.entries := by decide
  have hdigest :
      Set.InjOn Digest.Sha256.hex {signature fusedHunk.entries, signature partedHunk.entries} := by
    have hne : Digest.Sha256.hex (signature fusedHunk.entries) ≠
        Digest.Sha256.hex (signature partedHunk.entries) := by
      decide +kernel
    rw [Set.injOn_pair]
    exact fun heq => absurd heq hne
  obtain ⟨hsignature, hfeedless, hhash, hplaces⟩ := signatures_tell_entries
  refine ⟨hfused, hparted, hdigest, ?_, ?_, _, _, hindex, hindex', ?_⟩
  · rw [ne_eq, hsignature _ _ (hfeedless _ hfused) (hfeedless _ hparted)]
    exact hentries
  · rw [ne_eq, hhash _ _ hfused hparted hdigest]
    exact hentries
  · rw [ne_eq, hplaces _ _ _ _ _ _ fusedHunk partedHunk hindex hindex' (by decide +kernel)
      (by decide +kernel) hdigest]
    exact hentries

end Triage
