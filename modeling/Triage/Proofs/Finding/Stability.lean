import Triage.Proofs.Finding.Canonical
import Triage.Proofs.Path
import Triage.Proofs.Text.Runs
import Triage.Proofs.Text.Words

/-!
# Canonical forms are stable

Canonical forms of texts touch blanks only and are their own canonical forms. So is that of a
finding but for its path, which may go on getting shorter; a finding has one unless an id or a key
has to be made of a path or title without bytes (`canonical_forms_stable`).
-/

namespace Triage

/-! ### Bytes -/

namespace Text

/-- The halves of surrogate pairs that stand alone in a text. -/
def halves (cs : List Char) : List Char :=
  cs.filter fun c => (half? c).isSome

theorem isEncodable_iff_halves (s : String) : isEncodable s = true ↔ halves s.toList = [] := by
  unfold isEncodable halves
  rw [List.all_eq_true, List.filter_eq_nil_iff]
  simp

theorem half?_of_isBlank {c : Char} (h : isBlank c = true) : (half? c).isSome = false := by
  have hlow : c.toNat < standInPlane := by
    simp [isBlank] at h
    unfold standInPlane
    omega
  unfold half?
  rw [if_neg (by simp; omega)]
  rfl

theorem seesGaps_halves : SeesGaps (fun c => !(half? c).isSome) halves :=
  seesGaps_filter fun c => (half? c).isSome

/-- No half is a blank, so that all of them are still there on one line. -/
theorem halves_singleLine (cs : List Char) : halves (singleLine cs) = halves cs :=
  (seesGaps_halves.mono fun c hc => by simp [half?_of_isBlank hc]).view_singleLine cs

end Text

theorem Path.halves_dropRoot (cs : List Char) : Text.halves (dropRoot cs) = Text.halves cs := by
  have hdot : ∀ rest, Text.halves ('.' :: rest) = Text.halves rest :=
    Text.seesGaps_halves.view_cons (by decide)
  have hslash : ∀ rest, Text.halves ('/' :: rest) = Text.halves rest :=
    Text.seesGaps_halves.view_cons (by decide)
  fun_induction dropRoot cs with
  | case1 rest ih => rw [ih, hdot, hslash]
  | case2 rest ih => rw [ih, hslash]
  | case3 cs => rfl

/-- A relative path has bytes iff the path has. -/
theorem Path.isEncodable_relative (path : String) :
    Text.isEncodable (relative path) = Text.isEncodable path := by
  rw [Bool.eq_iff_iff, Text.isEncodable_iff_halves, Text.isEncodable_iff_halves, relative,
    String.toList_ofList, halves_dropRoot,
    Text.seesGaps_halves.view_trim fun c hc => by simp [Text.half?_of_isBlank hc]]

theorem isEncodable_onChars_singleLine (s : String) :
    Text.isEncodable (onChars Text.singleLine s) = Text.isEncodable s := by
  rw [Bool.eq_iff_iff, Text.isEncodable_iff_halves, Text.isEncodable_iff_halves, toList_onChars,
    Text.halves_singleLine]

/-! ### Findings -/

/-- A text on one line is empty iff it has no words. -/
theorem onChars_singleLine_eq_empty_iff (s : String) :
    onChars Text.singleLine s = "" ↔ Text.words s.toList = [] := by
  have hempty : onChars Text.singleLine s = "" ↔ Text.singleLine s.toList = [] := by
    rw [← String.toList_inj, toList_onChars, String.toList_empty]
  rw [hempty, Text.singleLine_eq_intercalate_words, Text.words_eq_pieces]
  constructor
  · intro h
    have hpieces := Text.pieces_intercalate (by decide)
      fun w (hw : w ∈ Text.pieces Text.isBlank s.toList) => Text.not_of_mem_pieces hw
    rw [← hpieces, h]
    rfl
  · intro h
    rw [h]
    rfl

namespace Finding

/-- Whether an id and a key are there, or else the bytes of path and title to make them of. -/
def HasIdentity (f : Finding) : Prop :=
  (Text.words f.id.toList ≠ [] ∧ Text.words f.key.toList ≠ []) ∨
    (Text.isEncodable f.path = true ∧ Text.isEncodable f.title = true)

theorem isIdentifiable_iff (f : Finding) : f.isIdentifiable = true ↔ f.HasIdentity := by
  unfold isIdentifiable HasIdentity tidied
  simp only [Path.isEncodable_relative, isEncodable_onChars_singleLine, Bool.or_eq_true,
    Bool.and_eq_true, decide_eq_true_eq, ne_eq, onChars_singleLine_eq_empty_iff]

/-- The canonical form of a canonical form differs from it in its path at most. -/
theorem canonical_canonical (f : Finding) :
    f.canonical.canonical = { f.canonical with path := Path.relative f.canonical.path } := by
  have hid := isIdentity_id_canonical f
  have hkey := isIdentity_key_canonical f
  have htitle : onChars Text.singleLine f.canonical.title = f.canonical.title :=
    onChars_onChars Text.singleLine_singleLine f.title
  have hbody : onChars Text.tidy f.canonical.body = f.canonical.body :=
    onChars_onChars Text.tidy_tidy f.body
  have hevidence : onChars Text.tidy f.canonical.evidence = f.canonical.evidence :=
    onChars_onChars Text.tidy_tidy f.evidence
  have hpatch : canonicalPatch f.canonical.suggestedPatch = f.canonical.suggestedPatch :=
    canonicalPatch_canonicalPatch f.suggestedPatch
  generalize f.canonical = g at hid hkey htitle hbody hevidence hpatch ⊢
  have htidied : g.tidied = { g with path := Path.relative g.path } := by
    unfold tidied
    rw [htitle, hbody, hevidence, hpatch, hid.onChars_singleLine, hkey.onChars_singleLine]
  unfold canonical
  rw [htidied]
  simp only [orElse, if_neg hid.ne_empty, if_neg hkey.ne_empty]

end Finding

/-- The canonical forms of a text change its blanks only and stay as they are; so does that of a
finding but for its path, and there is one exactly if the finding has an identity. -/
theorem canonical_forms_stable (cs : List Char) (f : Finding) :
    Text.singleLine cs = [' '].intercalate (Text.words cs) ∧
    Text.tidy cs = (Text.runs (Text.trim cs)).flatMap Text.tidyRun ∧
    Text.singleLine (Text.singleLine cs) = Text.singleLine cs ∧
    Text.tidy (Text.tidy cs) = Text.tidy cs ∧
    ((∃ g h, f.toCanonical = .ok g ∧ g.toCanonical = .ok h ∧ h = { g with path := h.path }) ↔
      f.HasIdentity) ∧
    (f.toCanonical = .error .unencodable ↔ ¬ f.HasIdentity) := by
  refine ⟨Text.singleLine_eq_intercalate_words cs, Text.tidy_eq_flatMap_runs cs,
    Text.singleLine_singleLine cs, Text.tidy_tidy cs, ?_⟩
  rw [← f.isIdentifiable_iff]
  cases hf : f.isIdentifiable with
  | true =>
    have hfirst : f.toCanonical = .ok f.canonical := if_pos hf
    have hsecond : f.canonical.toCanonical = .ok f.canonical.canonical :=
      if_pos (Finding.isIdentifiable_of_isIdentity f.isIdentity_id_canonical
        f.isIdentity_key_canonical)
    have hresult : ∃ g h, f.toCanonical = .ok g ∧ g.toCanonical = .ok h ∧
        h = { g with path := h.path } := by
      refine ⟨_, _, hfirst, hsecond, ?_⟩
      rw [f.canonical_canonical]
    rw [hfirst] at hresult ⊢
    simpa using hresult
  | false =>
    have hfails : f.toCanonical = .error .unencodable := if_neg (by simp [hf])
    rw [hfails]
    simp

/-- A finding without id and key, with half of a surrogate pair in its title. -/
def brokenTitle : Finding where
  id := ""
  key := ""
  path := "src/a.py"
  side := .right
  line := 2
  severity := .important
  category := .bug
  title := "bad " ++ String.singleton (Text.ofUnit 0xD800) ++ " title"
  body := "The value may be null here"
  evidence := "line two reads it"
  suggestedPatch := none
  commentType := .inline
  confidence := none

/-- Half a character in a title leaves a finding without a canonical form. -/
theorem not_exists_toCanonical_brokenTitle : ¬ ∃ g, brokenTitle.toCanonical = .ok g := by
  have hfails : brokenTitle.toCanonical = .error .unencodable := by decide +kernel
  rw [hfails]
  simp

end Triage
