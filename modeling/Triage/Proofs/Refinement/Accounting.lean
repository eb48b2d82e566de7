import Triage.Proofs.Refinement.Order
import Triage.Proofs.Refinement.Screening
import Triage.Proofs.Refinement.Selection
import Triage.Proofs.Traversal
import Mathlib.Data.Option.Basic

/-!
# Every draft is accounted for

A refinement gives a result iff every draft can be screened and the share of a file is a double
(`exists_refine_eq_ok_iff`). Then every draft ends in one place: it is shown, or it is counted among
those that were dropped (`accounts_ofOutcomes`). The shown findings come from drafts of their own,
and are those drafts in canonical form, with less weight or less place.
-/

namespace Triage

variable {drafts : List Draft} {index : DiffIndex} {files : List ChangedFile} {o : RefineOptions}

/-! ### When there is a result -/

/-- Whether drafts can be refined: no id or key has to be made of half of a surrogate pair, no score
is beyond the doubles, and neither is a third of the inline comments. -/
structure IsRefinable (drafts : List Draft) (index : DiffIndex) (files : List ChangedFile)
    (o : RefineOptions) : Prop where
  screenable : ∀ d ∈ drafts, IsScreenable index (changedPaths files) o d
  share : hasInlineShare o.maxInlineComments = true

theorem bind_ite_eq_ok_iff {ε α β : Type} {x : Except ε α} {b : Bool} {g : α → β} {e : ε} {r : β} :
    (x >>= fun a => if b then pure (g a) else throw e) = .ok r ↔
      b = true ∧ ∃ a, x = .ok a ∧ r = g a := by
  cases x with
  | error e' => simp [bind, Except.bind]
  | ok a =>
    cases b with
    | false => simp [bind, Except.bind, throw, throwThe, MonadExceptOf.throw]
    | true => simp [bind, Except.bind, pure, Except.pure, eq_comm (b := r)]

/-- Whether outcomes are what becomes of drafts, one by one. -/
abbrev AreScreened (drafts : List Draft) (index : DiffIndex) (files : List ChangedFile)
    (o : RefineOptions) (outcomes : List Outcome) : Prop :=
  List.Forall₂ (fun d outcome => screen index (changedPaths files) o d = .ok outcome)
    drafts outcomes

/-- A refinement screens the drafts one by one; all else follows from the outcomes. -/
theorem refine_eq_ok_iff {r : Refined} :
    refine drafts index files o = .ok r ↔
      hasInlineShare o.maxInlineComments = true ∧
      ∃ outcomes, AreScreened drafts index files o outcomes ∧ r = .ofOutcomes o outcomes := by
  unfold refine
  simp only [← mapM_eq_ok_iff]
  exact bind_ite_eq_ok_iff

/-- There is a result iff the drafts can be refined. -/
theorem exists_refine_eq_ok_iff :
    (∃ r, refine drafts index files o = .ok r) ↔ IsRefinable drafts index files o := by
  constructor
  · rintro ⟨r, h⟩
    obtain ⟨hshare, outcomes, houtcomes, -⟩ := refine_eq_ok_iff.mp h
    refine ⟨fun d hd => ?_, hshare⟩
    exact exists_screen_eq_ok_iff.mp
      (exists_mapM_eq_ok_iff.mp ⟨outcomes, mapM_eq_ok_iff.mpr houtcomes⟩ d hd)
  · rintro ⟨hscreenable, hshare⟩
    obtain ⟨outcomes, houtcomes⟩ := exists_mapM_eq_ok_iff.mpr
      fun d hd => exists_screen_eq_ok_iff.mpr (hscreenable d hd)
    exact ⟨_, refine_eq_ok_iff.mpr ⟨hshare, outcomes, mapM_eq_ok_iff.mp houtcomes, rfl⟩⟩

/-! ### Counting -/

/-- An outcome is that a draft was ignored, or empty, or kept. -/
theorem countP_add_countP_add_length (outcomes : List Outcome) :
    outcomes.countP Outcome.isIgnored + outcomes.countP Outcome.isEmpty +
      (outcomes.filterMap Outcome.item?).length = outcomes.length := by
  induction outcomes with
  | nil => rfl
  | cons outcome rest ih =>
    rw [List.countP_cons, List.countP_cons, List.filterMap_cons, List.length_cons, ← ih]
    cases outcome with
    | ignored => simp [Outcome.isIgnored, Outcome.isEmpty, Outcome.item?]; omega
    | empty => simp [Outcome.isIgnored, Outcome.isEmpty, Outcome.item?]; omega
    | kept item downgraded converted =>
      simp [Outcome.isIgnored, Outcome.isEmpty, Outcome.item?]
      omega

theorem shownItems_perm (o : RefineOptions) (outcomes : List Outcome) :
    (shownItems o outcomes).Perm (cappedOf o outcomes).kept :=
  sortRanked_perm Ranked.isShownBefore _

/-- The shown items are among the strongest ones. -/
theorem shownItems_subperm_strongestOf (o : RefineOptions) (outcomes : List Outcome) :
    (shownItems o outcomes).Subperm (strongestOf outcomes).kept := by
  have hcapped : (cappedOf o outcomes).kept.Sublist (byScore (strongestOf outcomes).kept) :=
    capFrom_sublist _ _
  have hsorted : (byScore (strongestOf outcomes).kept).Perm (strongestOf outcomes).kept :=
    sortRanked_perm Ranked.isStronger _
  exact (shownItems_perm o outcomes).subperm.trans (hcapped.subperm.trans hsorted.subperm)

/-- The shown items are among those that were kept. -/
theorem shownItems_subperm (o : RefineOptions) (outcomes : List Outcome) :
    (shownItems o outcomes).Subperm (outcomes.filterMap Outcome.item?) := by
  have hstrongest : (strongestOf outcomes).kept.Subperm (outcomes.filterMap Outcome.item?) :=
    keepStrongest_subperm _
  exact (shownItems_subperm_strongestOf o outcomes).trans hstrongest

/-- The items that are not shown are counted as repeats or as too many for their files. -/
theorem length_shownItems (o : RefineOptions) (outcomes : List Outcome) :
    (shownItems o outcomes).length + (strongestOf outcomes).dropped +
      (cappedOf o outcomes).dropped = (outcomes.filterMap Outcome.item?).length := by
  have hshown := (shownItems_perm o outcomes).length_eq
  have hcapped : (cappedOf o outcomes).kept.length + (cappedOf o outcomes).dropped =
      (byScore (strongestOf outcomes).kept).length := length_capFrom _ _
  have hsorted : (byScore (strongestOf outcomes).kept).length =
      (strongestOf outcomes).kept.length := (sortRanked_perm Ranked.isStronger _).length_eq
  have hstrongest : (strongestOf outcomes).kept.length + (strongestOf outcomes).dropped =
      (outcomes.filterMap Outcome.item?).length := length_keepStrongest _
  omega

/-! ### Where the findings come from -/

/-- An item that was kept is what is shown of one of the drafts. -/
theorem exists_draft_of_mem {outcomes : List Outcome}
    (h : AreScreened drafts index files o outcomes) {item : Ranked}
    (hitem : item ∈ outcomes.filterMap Outcome.item?) :
    ∃ d ∈ drafts, ∃ f, d.read = .ok f ∧ item.finding = f.canonical.shown index o ∧
      item.IsScreened index (changedPaths files) o := by
  obtain ⟨outcome, houtcome, hkept⟩ := List.mem_filterMap.mp hitem
  obtain ⟨d, hd, hscreen⟩ := exists_mem_left h houtcome
  cases outcome with
  | ignored => exact absurd hkept (by simp [Outcome.item?])
  | empty => exact absurd hkept (by simp [Outcome.item?])
  | kept other downgraded converted =>
    obtain rfl : other = item := Option.some.inj hkept
    obtain ⟨f, hread, -, hfinding, hscreened⟩ := exists_of_screen_eq_kept hscreen
    exact ⟨d, hd, f, hread, hfinding, hscreened⟩

/-- An item that is shown passed the screening. -/
theorem isScreened_of_mem_shownItems {outcomes : List Outcome}
    (h : AreScreened drafts index files o outcomes) {item : Ranked}
    (hitem : item ∈ shownItems o outcomes) : item.IsScreened index (changedPaths files) o := by
  have hkept := (shownItems_subperm o outcomes).subset hitem
  obtain ⟨-, -, -, -, -, hscreened⟩ := exists_draft_of_mem h hkept
  exact hscreened

/-- The findings are those of the shown items, with numbers behind their ids and keys. -/
theorem forall₂_findings_ofOutcomes (o : RefineOptions) (outcomes : List Outcome) :
    List.Forall₂ (fun (item : Ranked) f => item.finding.IsNumbered f) (shownItems o outcomes)
      (Refined.ofOutcomes o outcomes).findings := by
  have hnumbered := forall₂_suffixRepeats ((shownItems o outcomes).map Ranked.finding)
  rwa [List.forall₂_map_left_iff] at hnumbered

/-- A finding in a result is what is shown of one of the drafts, with numbers behind its id and
key. -/
theorem exists_draft_of_mem_findings {r : Refined} (hr : refine drafts index files o = .ok r)
    {f : Finding} (hf : f ∈ r.findings) :
    ∃ d ∈ drafts, ∃ g, d.read = .ok g ∧ (g.canonical.shown index o).IsNumbered f := by
  obtain ⟨-, outcomes, houtcomes, rfl⟩ := refine_eq_ok_iff.mp hr
  obtain ⟨item, hitem, hnumbered⟩ := exists_mem_left (forall₂_findings_ofOutcomes o outcomes) hf
  have hkept := (shownItems_subperm o outcomes).subset hitem
  obtain ⟨d, hd, g, hread, hfinding, -⟩ := exists_draft_of_mem houtcomes hkept
  rw [hfinding] at hnumbered
  exact ⟨d, hd, g, hread, hnumbered⟩

/-- What does not depend on ids and keys is the same of the findings as of the shown items. -/
theorem map_findings_ofOutcomes {β : Type} {g : Finding → β}
    (hg : ∀ f : Finding, g f.anonymous = g f) (o : RefineOptions) (outcomes : List Outcome) :
    (Refined.ofOutcomes o outcomes).findings.map g =
      (shownItems o outcomes).map fun item => g item.finding := by
  have hsame : ∀ fs : List Finding, (fs.map Finding.anonymous).map g = fs.map g := by
    intro fs
    rw [List.map_map]
    exact List.map_congr_left fun f _ => hg f
  have hanonymous := map_anonymous_suffixRepeats ((shownItems o outcomes).map Ranked.finding)
  have hmap := congrArg (List.map g) hanonymous
  rw [hsame, hsame, List.map_map] at hmap
  exact hmap

/-- Whether a result accounts for every draft. -/
structure Refined.Accounts (drafts : List Draft) (r : Refined) : Prop where
  total : r.findings.length + r.diagnostics.droppedIgnored + r.diagnostics.droppedEmpty +
    r.diagnostics.deduplicated + r.diagnostics.droppedPerFileCap = drafts.length
  provenance : ∃ source : Fin r.findings.length → Fin drafts.length,
    Function.Injective source ∧
    ∀ i, ∃ f g, drafts[source i].read = .ok f ∧ f.toCanonical = .ok g ∧
      g.ShownAs r.findings[i]

/-- Items among those that a list has come from places of their own. -/
theorem exists_source_of_subperm {α β : Type} [DecidableEq β] {f : α → Option β} {xs : List β}
    {as : List α} (h : xs.Subperm (as.filterMap f)) {m n : ℕ} (hm : xs.length = m)
    (hn : as.length = n) :
    ∃ source : Fin m → Fin n, Function.Injective source ∧
      ∀ i : Fin m, ∃ a, as[(source i : ℕ)]? = some a ∧ f a = xs[(i : ℕ)]? := by
  -- The results of `f`, missing ones among them, stand in line with `as`.
  have hsome : (xs.map some).Subperm (as.map f) := by
    have hmap := (List.map_subperm_map_iff (Option.some_injective β)).mpr h
    rw [List.map_filterMap_some_eq_filter_map_isSome] at hmap
    exact hmap.trans List.filter_sublist.subperm
  have hxs : m = (xs.map some).length := by rw [List.length_map, hm]
  have has : (as.map f).length = n := by rw [List.length_map, hn]
  refine ⟨fun i => (hsome.idxInj (i.cast hxs)).cast has, ?_, ?_⟩
  · intro i j hij
    have hval := congrArg (fun k : Fin n => (k : ℕ)) hij
    have hcast := congrArg Fin.val (hsome.idxInj_injective (Fin.ext hval))
    exact Fin.ext hcast
  · intro i
    have hlt : (hsome.idxInj (i.cast hxs) : ℕ) < as.length :=
      (hsome.idxInj (i.cast hxs)).isLt.trans_eq (List.length_map _)
    have hi := hsome.getElem_idxInj_eq_getElem (i := i.cast hxs)
    rw [List.getElem_map, List.getElem_map] at hi
    refine ⟨as[(hsome.idxInj (i.cast hxs) : ℕ)], List.getElem?_eq_getElem hlt, ?_⟩
    rw [hi]
    exact (List.getElem?_eq_getElem (hm ▸ i.isLt)).symm

/-- The findings of screened drafts come from drafts of their own. -/
theorem exists_source_ofOutcomes {outcomes : List Outcome}
    (h : AreScreened drafts index files o outcomes) :
    ∃ source : Fin (Refined.ofOutcomes o outcomes).findings.length → Fin drafts.length,
      Function.Injective source ∧
      ∀ i, ∃ f g, drafts[source i].read = .ok f ∧ f.toCanonical = .ok g ∧
        g.ShownAs (Refined.ofOutcomes o outcomes).findings[i] := by
  have hlen : (shownItems o outcomes).length = (Refined.ofOutcomes o outcomes).findings.length := by
    unfold Refined.ofOutcomes
    rw [length_suffixRepeats, List.length_map]
  obtain ⟨source, hinjective, hsource⟩ :=
    exists_source_of_subperm (shownItems_subperm o outcomes) hlen h.length_eq.symm
  refine ⟨source, hinjective, ?_⟩
  intro i
  have hi : (i : ℕ) < (shownItems o outcomes).length := i.isLt.trans_eq hlen.symm
  have hlt : (source i : ℕ) < outcomes.length := (source i).isLt.trans_eq h.length_eq
  -- The outcome of the draft at the source is that the item was kept.
  obtain ⟨outcome, hget, hitem⟩ := hsource i
  rw [List.getElem?_eq_getElem hi] at hitem
  rw [List.getElem?_eq_getElem hlt, Option.some.injEq] at hget
  have hscreen : screen index (changedPaths files) o drafts[source i] = .ok outcome := by
    rw [← hget]
    exact h.get (source i).isLt hlt
  cases outcome with
  | ignored => exact absurd hitem (by simp [Outcome.item?])
  | empty => exact absurd hitem (by simp [Outcome.item?])
  | kept item downgraded converted =>
    obtain ⟨f, hread, hcanonical, hfinding, -⟩ := exists_of_screen_eq_kept hscreen
    have hitem' : item = (shownItems o outcomes)[(i : ℕ)] := Option.some.inj hitem
    refine ⟨f, f.canonical, hread, hcanonical, ?_⟩
    have hsuffix : (Refined.ofOutcomes o outcomes).findings[i] = _ :=
      getElem_suffixRepeats ((shownItems o outcomes).map Ranked.finding) i i.isLt
        (by rwa [List.length_map])
    rw [hsuffix]
    simp only [List.getElem_map, ← hitem', hfinding]
    apply (Finding.shownAs_shown f.canonical).numbered
    · rw [Finding.id_shown]
    · rw [Finding.key_shown]

/-- Every draft is shown or counted. -/
theorem accounts_ofOutcomes {outcomes : List Outcome}
    (h : AreScreened drafts index files o outcomes) :
    (Refined.ofOutcomes o outcomes).Accounts drafts where
  total := by
    have hdrafts := h.length_eq
    have houtcomes := countP_add_countP_add_length outcomes
    have hshown := length_shownItems o outcomes
    unfold Refined.ofOutcomes
    simp only [length_suffixRepeats, List.length_map]
    omega
  provenance := exists_source_ofOutcomes h

/-- A refinement accounts for every draft iff the drafts can be refined, and fails otherwise. -/
theorem refine_accounts_iff (drafts : List Draft) (index : DiffIndex) (files : List ChangedFile)
    (o : RefineOptions) :
    ((∃ r, refine drafts index files o = .ok r ∧ r.Accounts drafts) ↔
      IsRefinable drafts index files o) ∧
    ((∃ e, refine drafts index files o = .error e) ↔ ¬ IsRefinable drafts index files o) := by
  rw [← exists_refine_eq_ok_iff]
  constructor
  · constructor
    · rintro ⟨r, h, -⟩
      exact ⟨r, h⟩
    · rintro ⟨r, h⟩
      obtain ⟨-, outcomes, houtcomes, rfl⟩ := refine_eq_ok_iff.mp h
      exact ⟨_, h, accounts_ofOutcomes houtcomes⟩
  · cases refine drafts index files o with
    | ok r => simp
    | error e => simp

/-- A review comment with half of a surrogate pair in its title. -/
def loneSurrogate : Draft :=
  .document <| .record [("path", .text "src/a.py"), ("line", .nat 2),
    ("severity", .text "important"), ("category", .text "bug"),
    ("title", .text ("bad " ++ String.singleton (Text.ofUnit 0xD800) ++ " title")),
    ("body", .text "The value may be null here"), ("evidence", .text "line two reads it")]

/-- A limit that is beyond all doubles. -/
def hugeLimit : RefineOptions :=
  { RefineOptions.default with maxInlineComments := .ofNat (Nat.pow 10 400) }

/-- With half of a surrogate pair in a title, or with a huge limit, drafts are not accounted for. -/
theorem not_accounts_beyond_limits :
    (¬ ∃ r, refine [loneSurrogate] .empty [] .default = .ok r ∧ r.Accounts [loneSurrogate]) ∧
    ¬ ∃ r, refine [] .empty [] hugeLimit = .ok r ∧ r.Accounts [] := by
  have hsurrogate : refine [loneSurrogate] .empty [] .default = .error .unencodable := by
    decide +kernel
  have hlimit : refine [] .empty [] hugeLimit = .error .beyondDoubles := by
    decide +kernel
  rw [hsurrogate, hlimit]
  simp

end Triage
