import Triage.Finding.Canonical
import Triage.Proofs.Digest
import Triage.Proofs.Finding.Numbering
import Triage.Proofs.Text.Tidy

/-!
# Canonical findings

`Finding.IsCanonical` is the normal form of findings: texts tidy, the path relative, id and key
there. A finding with a path that `Path.relative` settles at once has a canonical form that is in it
(`isCanonical_canonical`); a finding in it is its own canonical form (`IsCanonical.canonical_eq`),
whatever number is put behind its id and key (`IsCanonical.withIdentity`).
-/

namespace Triage

theorem onChars_eq_self {f : List Char → List Char} {s : String} (h : f s.toList = s.toList) :
    onChars f s = s := by
  rw [onChars, h, String.ofList_toList]

@[simp]
theorem toList_onChars (f : List Char → List Char) (s : String) :
    (onChars f s).toList = f s.toList := by
  rw [onChars, String.toList_ofList]

theorem onChars_onChars {f : List Char → List Char} (h : ∀ cs, f (f cs) = f cs) (s : String) :
    onChars f (onChars f s) = onChars f s :=
  onChars_eq_self (by rw [toList_onChars, h])

theorem canonicalPatch_canonicalPatch (patch : Option String) :
    canonicalPatch (canonicalPatch patch) = canonicalPatch patch := by
  cases patch with
  | none => rfl
  | some s =>
    unfold canonicalPatch
    rw [Option.map_some]
    by_cases h : onChars Text.tidy s = ""
    · rw [h]
      rfl
    · have hkept : (some (onChars Text.tidy s)).filter (· ≠ "") = some (onChars Text.tidy s) := by
        simp [h]
      rw [hkept, Option.map_some, onChars_onChars Text.tidy_tidy, hkept]

/-! ### Identities -/

/-- Whether a text can be an id or a key: it is there, on one line. -/
structure IsIdentity (s : String) : Prop where
  singleLine : Text.IsSingleLine s.toList
  ne_empty : s ≠ ""

theorem IsIdentity.onChars_singleLine {s : String} (h : IsIdentity s) :
    onChars Text.singleLine s = s :=
  onChars_eq_self (Text.singleLine_eq_self h.singleLine)

theorem isBlank_of_mem_toDigits {n : ℕ} {c : Char} (h : c ∈ Nat.toDigits 10 n) :
    Text.isBlank c = false := by
  have hdigit := Nat.isDigit_of_mem_toDigits (by decide) (by decide) h
  rw [Char.isDigit_iff_toNat, show '0'.toNat = 48 from rfl, show '9'.toNat = 57 from rfl] at hdigit
  simp only [Text.isBlank]
  simp
  omega

/-- A numbered identity is one. -/
theorem IsIdentity.numbered {s : String} (h : IsIdentity s) (k : ℕ) :
    IsIdentity (numbered s k) := by
  rcases Nat.eq_zero_or_pos k with rfl | hk
  · exact h
  · constructor
    · rw [toList_numbered hk]
      apply h.singleLine.append
      intro c hc
      rcases List.mem_cons.mp hc with rfl | hc
      · decide
      · exact isBlank_of_mem_toDigits hc
    · intro hempty
      have hlen := congrArg String.toList hempty
      rw [toList_numbered hk] at hlen
      simp at hlen

/-- The beginning of a digest is an identity. -/
theorem isIdentity_firstChars_hex {n : ℕ} (hn : 0 < n) (text : String) :
    IsIdentity (firstChars n (Digest.Sha1.hex text)) := by
  constructor
  · rw [firstChars, String.toList_ofList]
    apply Text.isSingleLine_of_forall_not_blank
    intro c hc
    exact Digest.Sha1.isBlank_of_mem_hex (List.mem_of_mem_take hc)
  · intro hempty
    have hlen := congrArg (fun s => s.toList.length) hempty
    simp only [firstChars, String.toList_ofList, List.length_take, Digest.Sha1.length_hex] at hlen
    simp at hlen
    omega

theorem isIdentity_orElse {s other : String} (h : IsIdentity other) :
    IsIdentity (orElse (onChars Text.singleLine s) other) := by
  unfold orElse
  split_ifs with hs
  · exact h
  · exact ⟨by rw [toList_onChars]; exact Text.isSingleLine_singleLine _, hs⟩

namespace Finding

/-! ### The normal form -/

/-- Whether a finding is in canonical form. -/
structure IsCanonical (f : Finding) : Prop where
  path : Path.relative f.path = f.path
  title : onChars Text.singleLine f.title = f.title
  body : onChars Text.tidy f.body = f.body
  evidence : onChars Text.tidy f.evidence = f.evidence
  patch : canonicalPatch f.suggestedPatch = f.suggestedPatch
  id : IsIdentity f.id
  key : IsIdentity f.key

theorem isIdentity_defaultId (f : Finding) : IsIdentity f.defaultId :=
  isIdentity_firstChars_hex (by decide) _

theorem isIdentity_defaultKey (f : Finding) : IsIdentity f.defaultKey :=
  isIdentity_firstChars_hex (by decide) _

theorem canonical_id (f : Finding) :
    f.canonical.id = orElse (onChars Text.singleLine f.id) f.tidied.defaultId := by
  rw [canonical, tidied]

theorem canonical_key (f : Finding) :
    f.canonical.key = orElse (onChars Text.singleLine f.key) f.tidied.defaultKey := by
  rw [canonical, tidied]

theorem isIdentity_id_canonical (f : Finding) : IsIdentity f.canonical.id := by
  rw [canonical_id]
  exact isIdentity_orElse (isIdentity_defaultId _)

theorem isIdentity_key_canonical (f : Finding) : IsIdentity f.canonical.key := by
  rw [canonical_key]
  exact isIdentity_orElse (isIdentity_defaultKey _)

/-- The canonical form is canonical, if the path of the finding is relative after one step. -/
theorem isCanonical_canonical {f : Finding}
    (hpath : Path.relative (Path.relative f.path) = Path.relative f.path) :
    f.canonical.IsCanonical where
  path := hpath
  title := onChars_onChars Text.singleLine_singleLine f.title
  body := onChars_onChars Text.tidy_tidy f.body
  evidence := onChars_onChars Text.tidy_tidy f.evidence
  patch := canonicalPatch_canonicalPatch f.suggestedPatch
  id := isIdentity_id_canonical f
  key := isIdentity_key_canonical f

/-- The canonical form says something iff the finding does. -/
theorem isMeaningful_canonical (f : Finding) : f.canonical.isMeaningful = f.isMeaningful := by
  show (Text.isMeaningful (onChars Text.singleLine f.title) &&
    Text.isMeaningful (onChars Text.tidy f.body) &&
    Text.isMeaningful (onChars Text.tidy f.evidence)) = f.isMeaningful
  unfold onChars isMeaningful
  rw [Text.isMeaningful_singleLine, Text.isMeaningful_tidy, Text.isMeaningful_tidy]

/-- Nothing has to be made for a finding with an id and a key. -/
theorem isIdentifiable_of_isIdentity {f : Finding} (hid : IsIdentity f.id)
    (hkey : IsIdentity f.key) : f.isIdentifiable = true := by
  have htidied : f.tidied.id = f.id ∧ f.tidied.key = f.key :=
    ⟨hid.onChars_singleLine, hkey.onChars_singleLine⟩
  unfold isIdentifiable
  simp [htidied.1, htidied.2, hid.ne_empty, hkey.ne_empty]

namespace IsCanonical

variable {f : Finding}

theorem tidied_eq (h : f.IsCanonical) : f.tidied = f := by
  unfold tidied
  rw [h.path, h.title, h.body, h.evidence, h.patch, h.id.onChars_singleLine,
    h.key.onChars_singleLine]

theorem canonical_eq (h : f.IsCanonical) : f.canonical = f := by
  unfold canonical
  rw [h.tidied_eq]
  simp only [orElse, if_neg h.id.ne_empty, if_neg h.key.ne_empty]

theorem isIdentifiable (h : f.IsCanonical) : f.isIdentifiable = true :=
  isIdentifiable_of_isIdentity h.id h.key

theorem withIdentity (h : f.IsCanonical) {id key : String} (hid : IsIdentity id)
    (hkey : IsIdentity key) : { f with id := id, key := key }.IsCanonical :=
  { h with id := hid, key := hkey }

end IsCanonical

end Finding

end Triage
