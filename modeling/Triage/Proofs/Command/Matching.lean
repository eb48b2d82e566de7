import Triage.Proofs.Command.Handling
import Triage.Proofs.Json.Records
import Triage.Proofs.Matching.Classification

/-!
# What the second command makes of its files

The second command writes a document iff its three texts are what they should be and no limit is
met, and fails with a message iff one of them is not and no limit was met before
(`match_outcome_spec`). The document answers for every finding and for every prior one.
-/

namespace Triage

/-- Whether a document answers for findings and prior ones: it has a match for each of the findings,
in their order, and the id of each of the prior ones. -/
def Answers (findings : List Finding) (prior : List PriorFinding) (doc : Value) : Prop :=
  ∃ rows fixed obsolete : List Value, doc.field? "matches" = some (.list rows) ∧
    doc.field? "fixed" = some (.list fixed) ∧ doc.field? "obsolete" = some (.list obsolete) ∧
    List.Forall₂ (fun f row => row.field? "comment_id" = some (.text f.id)) findings rows ∧
    ∀ p ∈ prior, (∃ row ∈ rows, row.field? "existing_id" = some p.id.toValue) ∨
      p.id.toValue ∈ fixed ∨ p.id.toValue ∈ obsolete

theorem Reconciliation.Classifies.answers {findings : List Finding} {prior : List PriorFinding}
    {index : DiffIndex} {r : Reconciliation} (h : r.Classifies findings prior index) :
    Answers findings prior r.toValue := by
  refine ⟨r.matched.map fun m => .record m.fields, r.fixed.map fun p => p.id.toValue,
    r.obsolete.map fun p => p.id.toValue, rfl, rfl, rfl, ?_, fun p hp => ?_⟩
  · rw [← h.finding, List.forall₂_map_left_iff, List.forall₂_map_right_iff, List.forall₂_same]
    exact fun m _ => rfl
  · by_cases hclaimed : p.id ∈ r.matched.filterMap FindingMatch.claim
    · obtain ⟨m, hm, hclaim⟩ := List.mem_filterMap.mp hclaimed
      refine Or.inl ⟨.record m.fields, List.mem_map_of_mem hm, ?_⟩
      have hid : m.priorId = p.id.toValue := by
        rw [FindingMatch.priorId, hclaim]
        rfl
      rw [← hid]
      rfl
    · have hrest : p ∈ r.fixed ++ r.obsolete :=
        h.rest.mem_iff.mpr (List.mem_filter.mpr ⟨hp, decide_eq_true hclaimed⟩)
      refine Or.inr ?_
      rcases List.mem_append.mp hrest with hfixed | hobsolete
      · exact Or.inl (List.mem_map_of_mem hfixed)
      · exact Or.inr (List.mem_map_of_mem hobsolete)

namespace Command

/-! ### Texts -/

/-- The texts of the three files. -/
structure MatchTexts where
  diff : String
  findings : String
  existing : String

/-- Whether a text lists findings. -/
def ListsFindings [Nesting] (text : String) (findings : List Finding) : Prop :=
  ∃ v items, Json.read text = .ok v ∧ comments? v = some items ∧
    items.mapM Finding.ofValue = .ok findings

/-- Whether a text lists prior findings. -/
def ListsPrior [Nesting] (text : String) (prior : List PriorFinding) : Prop :=
  ∃ items, Json.read text = .ok (.list items) ∧ items.mapM PriorFinding.ofValue = .ok prior

namespace MatchTexts

/-- Whether texts are those of the files that the options name. -/
structure AreIn (t : MatchTexts) (files : Files) (o : Options) : Prop where
  diff : readText files (file o "--diff") = .ok t.diff
  findings : readText files (file o "--findings") = .ok t.findings
  existing : readText files (file o "--existing") = .ok t.existing

/-- Whether texts are what they should be: a diff, a list or table that lists valid findings, and a
list of valid prior ones. -/
structure AreGood [Nesting] (t : MatchTexts) : Prop where
  diff : ∃ index, DiffIndex.ofPatch t.diff = .ok index
  findings : ∃ v items, Json.read t.findings = .ok v ∧ comments? v = some items ∧
    ∀ item ∈ items, ∃ f, Finding.ofValue item = .ok f
  existing : ∃ items, Json.read t.existing = .ok (.list items) ∧
    ∀ item ∈ items, ∃ p, PriorFinding.ofValue item = .ok p

/-- Whether a limit is met: a part of a text is beyond one, and the texts before it are what they
should be, or all of them are and a finding has no fingerprint. -/
inductive MeetLimit [Nesting] (t : MatchTexts) : Prop
  | diff {e : LimitError} (beyond : DiffIndex.ofPatch t.diff = .error (.limit e))
  | findings {index : DiffIndex} {e : LimitError} (diff : DiffIndex.ofPatch t.diff = .ok index)
    (beyond : Json.read t.findings = .error (.limit e))
  | existing {index : DiffIndex} {findings : List Finding} {e : LimitError}
    (diff : DiffIndex.ofPatch t.diff = .ok index) (listed : ListsFindings t.findings findings)
    (beyond : Json.read t.existing = .error (.limit e))
  | fingerprint {index : DiffIndex} {findings : List Finding} {prior : List PriorFinding}
    {f : Finding} (diff : DiffIndex.ofPatch t.diff = .ok index)
    (listed : ListsFindings t.findings findings) (stored : ListsPrior t.existing prior)
    (mem : f ∈ findings) (without : f.hasFingerprint = false)

theorem areGood_iff [Nesting] {t : MatchTexts} :
    t.AreGood ↔ (∃ index, DiffIndex.ofPatch t.diff = .ok index) ∧
    (∃ findings, ListsFindings t.findings findings) ∧ ∃ prior, ListsPrior t.existing prior := by
  unfold ListsFindings ListsPrior
  constructor
  · rintro ⟨hdiff, ⟨v, items, hv, hitems, hfindings⟩, stored, hstored, hprior⟩
    obtain ⟨findings, hfindings⟩ := exists_mapM_eq_ok_iff.mpr hfindings
    obtain ⟨prior, hprior⟩ := exists_mapM_eq_ok_iff.mpr hprior
    exact ⟨hdiff, ⟨findings, v, items, hv, hitems, hfindings⟩, prior, stored, hstored, hprior⟩
  · rintro ⟨hdiff, ⟨findings, v, items, hv, hitems, hfindings⟩, prior, stored, hstored, hprior⟩
    exact ⟨hdiff, ⟨v, items, hv, hitems, exists_mapM_eq_ok_iff.mp ⟨findings, hfindings⟩⟩, stored,
      hstored, exists_mapM_eq_ok_iff.mp ⟨prior, hprior⟩⟩

end MatchTexts

/-! ### Readers -/

variable {files : Files} {o : Options} {name text : String}

theorem stopsText_iff {isBeyond : String → LimitError → Prop}
    (h : readText files name = .ok text) :
    StopsText isBeyond files name ↔ ∃ e, isBeyond text e := by
  constructor
  · intro hstops
    cases hstops with
    | name unnamable => simp [readText, unnamable] at h
    | text held beyond =>
      obtain rfl := Except.ok.inj (held.symm.trans h)
      exact ⟨_, beyond⟩
  · rintro ⟨e, beyond⟩
    exact .text h beyond

theorem readDiff_eq_ok_iff (h : readText files name = .ok text) {index : DiffIndex} :
    readDiff files name = .ok index ↔ DiffIndex.ofPatch text = .ok index := by
  simp [readDiff, placed, h]

theorem readDocument_eq_ok_iff [Nesting] (h : readText files name = .ok text) {v : Value} :
    readDocument files name = .ok v ↔ Json.read text = .ok v := by
  simp [readDocument, h]

theorem readFindings_eq_ok_iff_lists [Nesting] (h : readText files name = .ok text)
    {findings : List Finding} :
    readFindings files name = .ok findings ↔ ListsFindings text findings := by
  rw [readFindings_eq_ok_iff]
  simp only [readDocument_eq_ok_iff h]
  rfl

theorem readPrior_eq_ok_iff_lists [Nesting] (h : readText files name = .ok text)
    {prior : List PriorFinding} :
    readPrior files name = .ok prior ↔ ListsPrior text prior := by
  have hlist : ∀ items, readList files name = .ok items ↔ Json.read text = .ok (.list items) := by
    intro items
    unfold readList
    simp only [bind_eq_ok_iff, readDocument_eq_ok_iff h]
    constructor
    · rintro ⟨v, hv, hitems⟩
      split at hitems
      · rw [hv, pure_eq_ok_iff.mp hitems]
      · exact absurd hitems throw_ne_ok
    · intro hv
      exact ⟨_, hv, rfl⟩
  simp only [readPrior, placed, bind_eq_ok_iff, mapError_eq_ok_iff, hlist]
  rfl

theorem isFatal_readFindings_iff [Nesting] :
    FailsWith InputError.IsFatal (readFindings files name) ↔ StopsDocument files name := by
  rw [readFindings_eq, failsWith_bind_iff, isFatal_readDocument_iff, or_iff_left]
  rintro ⟨v, -, hv⟩
  cases hlisted : comments? v with
  | none => simp [hlisted, InputError.IsFatal, InputError.isUnexpected] at hv
  | some items =>
    simp only [hlisted] at hv
    exact not_isFatal_placed (fun _ => rfl) _ hv

theorem isFatal_readPrior_iff [Nesting] :
    FailsWith InputError.IsFatal (readPrior files name) ↔ StopsDocument files name := by
  unfold readPrior
  rw [failsWith_bind_iff, isFatal_readList_iff, or_iff_left]
  rintro ⟨items, -, h⟩
  exact not_isFatal_placed (fun _ => rfl) _ h

/-! ### The second command -/

/-- The second command. -/
def matchSpec [Nesting] : Spec := ⟨"match-findings", matchUsage, matchCommand⟩

@[simp]
theorem lookup_match [Nesting] : commands.lookup "match" = some matchSpec := rfl

variable {t : MatchTexts}

theorem matchCommand_eq_ok_iff [Nesting] (h : t.AreIn files o) {doc : Value} :
    matchCommand files o = .ok doc ↔ ∃ index findings prior r,
      DiffIndex.ofPatch t.diff = .ok index ∧ ListsFindings t.findings findings ∧
      ListsPrior t.existing prior ∧ reconcile findings prior index = .ok r ∧ r.toValue = doc := by
  unfold matchCommand limited
  simp only [bind_eq_ok_iff, pure_eq_ok_iff, mapError_eq_ok_iff, readDiff_eq_ok_iff h.diff,
    readFindings_eq_ok_iff_lists h.findings, readPrior_eq_ok_iff_lists h.existing]
  constructor
  · rintro ⟨index, hdiff, findings, hlisted, prior, hstored, r, hr, rfl⟩
    exact ⟨index, findings, prior, r, hdiff, hlisted, hstored, hr, rfl⟩
  · rintro ⟨index, findings, prior, r, hdiff, hlisted, hstored, hr, rfl⟩
    exact ⟨index, hdiff, findings, hlisted, prior, hstored, r, hr, rfl⟩

theorem isFatal_matchCommand_iff [Nesting] (h : t.AreIn files o) :
    FailsWith InputError.IsFatal (matchCommand files o) ↔ t.MeetLimit := by
  have hlimited : ∀ findings prior index, FailsWith InputError.IsFatal
      (limited (reconcile findings prior index)) ↔
        ∃ f ∈ findings, f.hasFingerprint = false := by
    intro findings prior index
    unfold limited
    have hwithout : reconcile findings prior index = .error .unencodable ↔ _ :=
      reconcile_eq_error_iff
    rw [failsWith_mapError_iff, ← hwithout]
    unfold reconcile
    split_ifs <;> simp [InputError.IsFatal, InputError.isUnexpected]
  unfold matchCommand
  simp only [failsWith_bind_iff, not_failsWith_pure, and_false, exists_false, or_false,
    isFatal_readDiff_iff, isFatal_readFindings_iff, isFatal_readPrior_iff, hlimited,
    stopsText_iff h.diff, stopsText_iff h.findings, stopsText_iff h.existing,
    readDiff_eq_ok_iff h.diff, readFindings_eq_ok_iff_lists h.findings,
    readPrior_eq_ok_iff_lists h.existing]
  constructor
  · rintro (⟨e, he⟩ | ⟨index, hdiff, ⟨e, he⟩ | ⟨findings, hlisted, ⟨e, he⟩ |
      ⟨prior, hstored, f, hf, hwithout⟩⟩⟩)
    · exact .diff he
    · exact .findings hdiff he
    · exact .existing hdiff hlisted he
    · exact .fingerprint hdiff hlisted hstored hf hwithout
  · intro hlimit
    cases hlimit with
    | diff he => exact Or.inl ⟨_, he⟩
    | findings hdiff he => exact Or.inr ⟨_, hdiff, Or.inl ⟨_, he⟩⟩
    | existing hdiff hlisted he =>
      exact Or.inr ⟨_, hdiff, Or.inr ⟨_, hlisted, Or.inl ⟨_, he⟩⟩⟩
    | fingerprint hdiff hlisted hstored hf hwithout =>
      exact Or.inr ⟨_, hdiff, Or.inr ⟨_, hlisted, Or.inr ⟨_, hstored, _, hf, hwithout⟩⟩⟩

/-! ### Integers of the document -/

theorem toValue_of_ofValue? {v : Value} {id : StoreId} (h : StoreId.ofValue? v = some id) :
    id.toValue = v := by
  cases v with
  | scalar s =>
    cases s with
    | int n =>
      obtain rfl := Option.some.inj h
      rfl
    | text s =>
      obtain rfl := Option.some.inj h
      rfl
    | _ => simp [StoreId.ofValue?, Value.int?, Value.text?] at h
  | list items => simp [StoreId.ofValue?, Value.int?, Value.text?] at h
  | table entries => simp [StoreId.ofValue?, Value.int?, Value.text?] at h

/-- The id of a prior finding is a field of the document that it was read from. -/
theorem get?_id_of_ofValue {v : Value} {p : PriorFinding} (h : PriorFinding.ofValue v = .ok p) :
    v.get? "id" = some p.id.toValue := by
  unfold PriorFinding.ofValue at h
  simp only [ite_throw_eq_ok_iff, bind_eq_ok_iff, pure_eq_ok_iff] at h
  obtain ⟨-, id, hid, _, -, _, -, _, -, _, -, _, -, rfl⟩ := h
  cases hfound : (v.get? "id").bind StoreId.ofValue? with
  | none => simp [hfound] at hid
  | some found =>
    rw [hfound, Option.elim_some, pure_eq_ok_iff] at hid
    obtain ⟨w, hw, hof⟩ := Option.bind_eq_some_iff.mp hfound
    rw [hw, ← toValue_of_ofValue? hof, hid]

/-- Ids that were read are short enough to be written. -/
theorem hasShortIntegers_id [Nesting] {text : String} {prior : List PriorFinding}
    (h : ListsPrior text prior) : ∀ p ∈ prior, Json.hasShortIntegers p.id.toValue = true := by
  intro p hp
  obtain ⟨items, hread, hitems⟩ := h
  obtain ⟨v, hv, hof⟩ := exists_mem_left (mapM_eq_ok_iff.mp hitems) hp
  have hshort : Json.hasShortIntegers (.list items) = true := Json.hasShortIntegers_of_read hread
  exact Json.hasShortIntegers_field (Json.haveShortIntegers_iff.mp hshort v hv)
    (Json.field?_of_get? (get?_id_of_ofValue hof))

theorem hasShortIntegers_fields {m : FindingMatch}
    (h : ∀ p method, m.prior = some (p, method) → Json.hasShortIntegers p.id.toValue = true) :
    Json.hasShortIntegers (.record m.fields) = true := by
  have htext : ∀ s, Json.hasShortIntegers (.text s) = true := fun _ => rfl
  have hpriorId : Json.hasShortIntegers m.priorId = true := by
    unfold FindingMatch.priorId FindingMatch.claim
    cases hprior : m.prior with
    | none => rfl
    | some q => exact h q.1 q.2 hprior
  have hmethod : Json.hasShortIntegers m.methodName = true := by
    unfold FindingMatch.methodName
    cases m.prior with
    | none => rfl
    | some q => rfl
  rw [Json.hasShortIntegers_record_iff]
  simp [FindingMatch.fields, hpriorId, hmethod, htext]

/-- The integers of a reconciliation are ids of prior findings. -/
theorem hasShortIntegers_toValue {findings : List Finding} {prior : List PriorFinding}
    {index : DiffIndex} {r : Reconciliation} (h : r.Classifies findings prior index)
    (hids : ∀ p ∈ prior, Json.hasShortIntegers p.id.toValue = true) :
    Json.hasShortIntegers r.toValue = true := by
  have hrows : Json.hasShortIntegers (.list (r.matched.map fun m => .record m.fields)) = true := by
    refine Json.haveShortIntegers_iff.mpr (List.forall_mem_map.mpr fun m hm => ?_)
    exact hasShortIntegers_fields fun p method hprior => hids p (h.stored m hm p method hprior)
  have hpriorIds : ∀ left : List PriorFinding, left.Sublist prior →
      Json.hasShortIntegers (priorIds left) = true := by
    intro left hleft
    refine Json.haveShortIntegers_iff.mpr (List.forall_mem_map.mpr fun p hp => ?_)
    exact hids p (hleft.subset hp)
  rw [Reconciliation.toValue, Json.hasShortIntegers_record_iff]
  simp [hrows, hpriorIds r.fixed h.fixedOrder, hpriorIds r.obsolete h.obsoleteOrder]

/-- All that the second command makes can be written. -/
theorem hasShortIntegers_of_matchCommand [Nesting] (h : t.AreIn files o) {doc : Value}
    (hdoc : matchCommand files o = .ok doc) : Json.hasShortIntegers doc = true := by
  obtain ⟨index, findings, prior, r, -, -, hstored, hr, rfl⟩ := (matchCommand_eq_ok_iff h).mp hdoc
  obtain ⟨-, rfl⟩ := reconcile_eq_ok_iff.mp hr
  exact hasShortIntegers_toValue (classifies_ofMatches findings prior index)
    (hasShortIntegers_id hstored)

/-! ### Outcomes -/

theorem exists_matchCommand_iff [Nesting] (h : t.AreIn files o) :
    (∃ doc, matchCommand files o = .ok doc) ↔ t.AreGood ∧ ¬ t.MeetLimit := by
  rw [MatchTexts.areGood_iff]
  simp only [matchCommand_eq_ok_iff h]
  constructor
  · rintro ⟨doc, index, findings, prior, r, hdiff, hlisted, hstored, hr, hdoc⟩
    refine ⟨⟨⟨index, hdiff⟩, ⟨findings, hlisted⟩, prior, hstored⟩, ?_⟩
    rw [← isFatal_matchCommand_iff h, (matchCommand_eq_ok_iff h).mpr
      ⟨index, findings, prior, r, hdiff, hlisted, hstored, hr, hdoc⟩]
    exact not_failsWith_ok
  · rintro ⟨⟨⟨index, hdiff⟩, ⟨findings, hlisted⟩, prior, hstored⟩, hlimit⟩
    have hall : ∀ f ∈ findings, f.hasFingerprint = true := by
      intro f hf
      by_contra hwithout
      exact hlimit (.fingerprint hdiff hlisted hstored hf (Bool.eq_false_iff.mpr hwithout))
    exact ⟨_, index, findings, prior, _, hdiff, hlisted, hstored,
      reconcile_eq_ok_iff.mpr ⟨List.all_eq_true.mpr hall, rfl⟩, rfl⟩

/-- With texts in its files, the second command writes a document that can be written iff the texts
are what they should be and no limit is met, fails with a message that starts with its name iff they
are not and none is met, and breaks if one is. The document answers for all findings. -/
theorem match_outcome_spec [Nesting] (files : Files) (o : Options) (t : MatchTexts)
    (h : t.AreIn files o) :
    ((∃ doc, matchSpec.outcome files o = .written doc ∧ Json.hasShortIntegers doc = true) ↔
      t.AreGood ∧ ¬ t.MeetLimit) ∧
    ((∃ message, matchSpec.outcome files o = .failed ("match-findings: " ++ message)) ↔
      ¬ t.AreGood ∧ ¬ t.MeetLimit) ∧
    ((∃ e, matchSpec.outcome files o = .broken e) ↔ t.MeetLimit) ∧
    ∀ doc, matchSpec.outcome files o = .written doc → ∃ findings prior,
      ListsFindings t.findings findings ∧ ListsPrior t.existing prior ∧
        Answers findings prior doc := by
  have hfatal := isFatal_matchCommand_iff h
  have hgood := exists_matchCommand_iff h
  refine ⟨?_, ?_, ?_, ?_⟩
  · rw [← hgood]
    simp only [outcome_eq_written_iff]
    exact exists_congr fun doc => and_iff_left_of_imp (hasShortIntegers_of_matchCommand h)
  · refine exists_outcome_eq_failed_iff.trans ?_
    show (∃ e, matchCommand files o = .error e ∧ ¬ e.IsFatal) ↔ _
    cases hrun : matchCommand files o with
    | ok doc =>
      rw [hrun] at hgood
      have hall := hgood.mp ⟨doc, rfl⟩
      simp [hall.1]
    | error e =>
      rw [hrun] at hgood hfatal
      have hnot : ¬ (t.AreGood ∧ ¬ t.MeetLimit) := by
        rw [← hgood]
        simp
      simp only [Except.error.injEq, exists_eq_left']
      rw [← hfatal, failsWith_error_iff] at hnot ⊢
      exact ⟨fun h => ⟨fun hall => hnot ⟨hall, h⟩, h⟩, And.right⟩
  · simp only [outcome_eq_broken_iff]
    exact hfatal
  · intro doc hdoc
    obtain ⟨index, findings, prior, r, -, hlisted, hstored, hr, rfl⟩ :=
      (matchCommand_eq_ok_iff h).mp (outcome_eq_written_iff.mp hdoc)
    obtain ⟨-, rfl⟩ := reconcile_eq_ok_iff.mp hr
    exact ⟨findings, prior, hlisted, hstored, (classifies_ofMatches findings prior index).answers⟩

/-! ### Texts that a finding is written to -/

/-- The options that name a diff, findings and prior ones. -/
def matchOptions : Options := ("--existing", "e.json") :: reviewOptions

namespace MatchTexts

/-- Files with texts in them, by the names in the options. -/
def inFiles (t : MatchTexts) : Files :=
  textFiles [("d.diff", t.diff), ("f.json", t.findings), ("e.json", t.existing)]

/-- A diff of one file, findings, and prior ones, as they are written. -/
def ofFindings (findings : List Finding) (prior : List Value) : MatchTexts where
  diff := twoLinesDiff
  findings := render (.list (findings.map Finding.toValue))
  existing := render (.list prior)

theorem areIn_ofFindings (findings : List Finding) (prior : List Value) :
    (ofFindings findings prior).AreIn (ofFindings findings prior).inFiles matchOptions where
  diff := readText_of_holds (holds_textFiles rfl) (show '\r' ∉ twoLinesDiff.toList by decide)
  findings := readText_of_holds (holds_textFiles rfl) (notMem_render _)
  existing := readText_of_holds (holds_textFiles rfl) (notMem_render _)

theorem exists_index_twoLinesDiff : ∃ index, DiffIndex.ofPatch twoLinesDiff = .ok index := by
  have hdiff : (DiffIndex.ofPatch twoLinesDiff).map (fun _ => ()) = .ok () := by decide +kernel
  obtain ⟨index, hindex, -⟩ := exists_ok_of_map_eq_ok hdiff
  exact ⟨index, hindex⟩

end MatchTexts

theorem listsFindings_render [Nesting] {findings : List Finding} (h : ∀ f ∈ findings, f.Survives)
    (hshort : Json.hasShortIntegers (.list (findings.map Finding.toValue)) = true) :
    ListsFindings (render (.list (findings.map Finding.toValue))) findings := by
  have hdocument := (isDocument_comments findings).of_le_four (by decide)
  refine ⟨_, findings.map Finding.toValue, Json.read_indented hdocument hshort, ?_, ?_⟩
  · rw [Json.reread_comments]
    rfl
  · rw [mapM_eq_ok_iff, List.forall₂_map_left_iff, List.forall₂_same]
    exact h

/-- A remark that has an id in another document already. -/
def storedRemark : Value :=
  .record [("id", .nat 7), ("path", .text "src/a.py"), ("line", .nat 2),
    ("severity", .text "important"), ("category", .text "bug")]

theorem exists_listsPrior_storedRemark [Nesting] :
    ∃ prior, ListsPrior (render (.list [storedRemark])) prior := by
  have hflat : Json.IsDocument 1 storedRemark := Json.isDocument_record (by simp)
  have hdocument : Json.IsDocument Nesting.brackets (.list [storedRemark]) :=
    (Json.IsDocument.list (List.forall_mem_singleton.mpr hflat)).of_le_four (by decide)
  have hreread : Json.reread (.list [storedRemark]) = .list [storedRemark] := by
    rw [Json.reread_list, List.map_singleton, storedRemark, Json.reread_record (by simp)]
    simp [Json.reread_text, Json.reread_nat]
  have hvalid : ([storedRemark].mapM PriorFinding.ofValue).map (fun _ => ()) = .ok () := by
    decide +kernel
  obtain ⟨prior, hprior, -⟩ := exists_ok_of_map_eq_ok hvalid
  have hread := Json.read_indented hdocument (by decide +kernel)
  rw [hreread] at hread
  exact ⟨prior, _, hread, hprior⟩

/-- The texts of a remark that has an id already. -/
def storedTexts : MatchTexts := .ofFindings [remark "a" "one" 2] [storedRemark]

theorem match_outcome_storedTexts :
    storedTexts.AreIn storedTexts.inFiles matchOptions ∧ ∃ doc findings prior,
      matchSpec.outcome storedTexts.inFiles matchOptions = .written doc ∧
      ListsFindings storedTexts.findings findings ∧ ListsPrior storedTexts.existing prior ∧
      Answers findings prior doc := by
  have hin : storedTexts.AreIn storedTexts.inFiles matchOptions := MatchTexts.areIn_ofFindings _ _
  obtain ⟨-, -, -, hanswers⟩ := match_outcome_spec _ _ _ hin
  obtain ⟨index, hindex⟩ := MatchTexts.exists_index_twoLinesDiff
  obtain ⟨prior, hstored⟩ := exists_listsPrior_storedRemark
  have hlisted : ListsFindings storedTexts.findings [remark "a" "one" 2] :=
    listsFindings_render (List.forall_mem_singleton.mpr (Finding.survives_iff.mpr (by decide)))
      (by decide +kernel)
  have hhashed : [remark "a" "one" 2].all Finding.hasFingerprint = true := by decide +kernel
  have hdoc := (matchCommand_eq_ok_iff hin).mpr ⟨index, _, prior, _, hindex, hlisted, hstored,
    reconcile_eq_ok_iff.mpr ⟨hhashed, rfl⟩, rfl⟩
  have hwritten : ∃ doc, matchSpec.outcome storedTexts.inFiles matchOptions = .written doc :=
    ⟨_, outcome_eq_written_iff.mpr hdoc⟩
  obtain ⟨doc, hwritten⟩ := hwritten
  obtain ⟨findings, prior, hall⟩ := hanswers doc hwritten
  exact ⟨hin, doc, findings, prior, hwritten, hall⟩

/-- The texts of a remark with half of a surrogate pair in its key. -/
def unhashableTexts : MatchTexts := .ofFindings [unhashable] [storedRemark]

/-- Texts that are what they should be may still break the second command. -/
theorem not_written_of_unhashableTexts :
    unhashableTexts.AreIn unhashableTexts.inFiles matchOptions ∧ unhashableTexts.AreGood ∧
      ¬ ∃ doc, matchSpec.outcome unhashableTexts.inFiles matchOptions = .written doc := by
  have hin : unhashableTexts.AreIn unhashableTexts.inFiles matchOptions :=
    MatchTexts.areIn_ofFindings _ _
  obtain ⟨index, hindex⟩ := MatchTexts.exists_index_twoLinesDiff
  obtain ⟨prior, hstored⟩ := exists_listsPrior_storedRemark
  have hlisted : ListsFindings unhashableTexts.findings [unhashable] :=
    listsFindings_render (List.forall_mem_singleton.mpr (Finding.survives_iff.mpr (by decide)))
      (by decide +kernel)
  have hlimit : unhashableTexts.MeetLimit :=
    .fingerprint hindex hlisted hstored (List.mem_singleton_self _) (by decide +kernel)
  refine ⟨hin, MatchTexts.areGood_iff.mpr ⟨⟨index, hindex⟩, ⟨_, hlisted⟩, prior, hstored⟩, ?_⟩
  rintro ⟨doc, hdoc⟩
  have hrun := outcome_eq_written_iff.mp hdoc
  exact ((exists_matchCommand_iff hin).mp ⟨doc, hrun⟩).2 hlimit

end Command

end Triage
