import Triage.Proofs.Json.Documents
import Triage.Proofs.Rank
import Triage.Proofs.Settings.Faults
import Triage.Proofs.Settings.Fields
import Triage.Proofs.Text.Tidy

/-!
# Settings that are accepted

A document is settings iff each of its fields is one, and then these are the settings of its fields
over the defaults (`Settings.AreOf`). Such settings are usable (`Settings.IsUsable`), and a document
that is none is told what is wrong with it (`settings_accepted`). Only a weight that is no number is
not at least zero.
-/

namespace Triage

open Vocabulary

/-! ### Lists of fields -/

/-- The limits, by the names of their fields. -/
def Limits.fields : List (String × (Limits → ℤ)) :=
  [("max_inline_comments", (·.maxInlineComments)), ("max_key_concerns", (·.maxKeyConcerns)),
    ("max_coverage_targets", (·.maxCoverageTargets))]

/-- The weights that stand alone, by the names of their fields. -/
def Weights.fields : List (String × (Weights → Number)) :=
  [("default_confidence", (·.defaultConfidence)), ("suggestion_boost", (·.suggestionBoost)),
    ("in_diff_boost", (·.inDiffBoost)), ("changed_path_boost", (·.changedPathBoost)),
    ("feedback_boost", (·.feedbackBoost)), ("feedback_penalty", (·.feedbackPenalty))]

/-- The counts among the weights, by the names of their fields. -/
def Weights.counts : List (String × (Weights → ℤ)) :=
  [("evidence_boost_cap", fun w => w.evidenceBoostCap),
    ("evidence_chars_per_point", fun w => w.evidenceCharsPerPoint.val)]

/-! ### Sections -/

/-- Whether limits are those of a section, if it is there. -/
def Limits.AreOf (l : Limits) (v : Option Value) : Prop :=
  (∀ w ∈ v, w.isTable = true) ∧
    ∀ p ∈ fields, IsSetting MeansCount (v.bind (·.get? p.1)) (p.2 .default) (p.2 l)

/-- Whether weights are those of a section, if it is there. -/
structure Weights.AreOf (w : Weights) (v : Option Value) : Prop where
  isTable : ∀ t ∈ v, t.isTable = true
  severity : IsSetting (MeansTable Weights.default.severity) (v.bind (·.get? "severity"))
    Weights.default.severity w.severity
  confidence : IsSetting (MeansTable Weights.default.confidence) (v.bind (·.get? "confidence"))
    Weights.default.confidence w.confidence
  category : IsSetting (MeansTable Weights.default.category) (v.bind (·.get? "category"))
    Weights.default.category w.category
  fields : ∀ p ∈ Weights.fields,
    IsSetting MeansWeight (v.bind (·.get? p.1)) (p.2 .default) (p.2 w)
  counts : ∀ p ∈ Weights.counts,
    IsSetting MeansCount (v.bind (·.get? p.1)) (p.2 .default) (p.2 w)

theorem section?_bind_eq_ok_iff {α : Type} {place : String} {v : Option Value}
    {read : Option Value → Reading α} {x : α} :
    (section? place v >>= read) = .ok x ↔ (∀ w ∈ v, w.isTable = true) ∧ read v = .ok x := by
  simp only [bind_eq_ok_iff, section?_eq_ok_iff]
  constructor
  · rintro ⟨_, ⟨rfl, htable⟩, h⟩
    exact ⟨htable, h⟩
  · rintro ⟨htable, h⟩
    exact ⟨v, ⟨rfl, htable⟩, h⟩

section Fields

variable {v : Value} {sectionName name : String}

theorem field_weight_eq_ok_iff {default x : Number} :
    field weight sectionName v name default = .ok x ↔
      IsSetting MeansWeight (v.get? name) default x := by
  simp only [field_eq_ok_iff, weight_eq_ok_iff]

theorem field_positive_eq_ok_iff {default n : Positive} :
    field positive sectionName v name default = .ok n ↔
      IsSetting MeansCount (v.get? name) default.val n.val := by
  simp only [field_eq_ok_iff, positive_eq_ok_iff]
  unfold IsSetting
  cases v.get? name with
  | none =>
    rw [← Subtype.val_inj]
    exact Int.natCast_inj.symm
  | some w => rfl

theorem field_positiveInt_eq_ok_iff {default n : ℕ} :
    field positiveInt sectionName v name default = .ok n ↔
      IsSetting MeansCount (v.get? name) default n := by
  simp only [field_eq_ok_iff, positiveInt_eq_ok_iff]
  unfold IsSetting
  cases v.get? name with
  | none => exact Int.natCast_inj.symm
  | some w => rfl

theorem exists_natCast_eq_of_isSetting {given : Option Value} {default : ℕ} {n : ℤ}
    (h : IsSetting MeansCount given default n) : ∃ k : ℕ, n = k := by
  refine h.of_forall (P := fun n : ℤ => ∃ k : ℕ, n = k) ⟨default, rfl⟩
    fun v n hn => ⟨n.toNat, ?_⟩
  have hpos := hn.2
  omega

end Fields

theorem limits_eq_ok_iff {v : Option Value} {l : Limits} :
    Limits.ofValue v = .ok l ↔ l.AreOf v := by
  unfold Limits.ofValue Limits.AreOf
  rw [section?_bind_eq_ok_iff]
  refine and_congr_right fun _ => ?_
  obtain ⟨a, b, c⟩ := l
  cases v with
  | none =>
    constructor
    · intro h
      rw [← pure_eq_ok_iff.mp h]
      exact fun p _ => rfl
    · intro h
      obtain ⟨rfl, rfl, rfl⟩ : a = 20 ∧ b = 5 ∧ c = 8 := by
        simpa [Limits.fields, IsSetting, Limits.default] using h
      rfl
  | some v =>
    have hfields : (∀ p ∈ Limits.fields,
        IsSetting MeansCount ((some v).bind (·.get? p.1)) (p.2 .default) (p.2 ⟨a, b, c⟩)) ↔
        IsSetting MeansCount (v.get? "max_inline_comments") (20 : ℕ) a ∧
          IsSetting MeansCount (v.get? "max_key_concerns") (5 : ℕ) b ∧
          IsSetting MeansCount (v.get? "max_coverage_targets") (8 : ℕ) c := by
      simp [Limits.fields, Limits.default]
    rw [hfields]
    simp only [bind_eq_ok_iff]
    constructor
    · rintro ⟨k, hk, m, hm, n, hn, h⟩
      obtain ⟨rfl, rfl, rfl⟩ := Limits.mk.inj (pure_eq_ok_iff.mp h)
      exact ⟨field_positiveInt_eq_ok_iff.mp hk, field_positiveInt_eq_ok_iff.mp hm,
        field_positiveInt_eq_ok_iff.mp hn⟩
    · rintro ⟨ha, hb, hc⟩
      obtain ⟨k, rfl⟩ := exists_natCast_eq_of_isSetting ha
      obtain ⟨m, rfl⟩ := exists_natCast_eq_of_isSetting hb
      obtain ⟨n, rfl⟩ := exists_natCast_eq_of_isSetting hc
      exact ⟨k, field_positiveInt_eq_ok_iff.mpr ha, m, field_positiveInt_eq_ok_iff.mpr hb, n,
        field_positiveInt_eq_ok_iff.mpr hc, rfl⟩

theorem weights_eq_ok_iff {v : Option Value} {w : Weights} :
    Weights.ofValue v = .ok w ↔ w.AreOf v := by
  unfold Weights.ofValue
  rw [section?_bind_eq_ok_iff]
  cases v with
  | none =>
    constructor
    · rintro ⟨htable, h⟩
      obtain rfl := pure_eq_ok_iff.mp h
      exact ⟨htable, rfl, rfl, rfl, fun p _ => rfl, fun p _ => rfl⟩
    · rintro ⟨htable, hseverity, hconfidence, hcategory, hfields, hcounts⟩
      obtain ⟨severity, confidence, a, category, b, cap, chars, c, d, e, f⟩ := w
      obtain rfl : severity = Weights.default.severity := hseverity
      obtain rfl : confidence = Weights.default.confidence := hconfidence
      obtain rfl : category = Weights.default.category := hcategory
      obtain ⟨rfl, rfl, rfl, rfl, rfl, rfl⟩ := by simpa [Weights.fields, IsSetting] using hfields
      obtain ⟨hcap, hchars⟩ := by simpa [Weights.counts, IsSetting] using hcounts
      obtain rfl : cap = Weights.default.evidenceBoostCap := by omega
      obtain rfl : chars = Weights.default.evidenceCharsPerPoint := Subtype.val_inj.mp (by omega)
      exact ⟨htable, rfl⟩
  | some v =>
    simp only [bind_eq_ok_iff, weightTable_eq_ok_iff isSpelled_severity,
      weightTable_eq_ok_iff isSpelled_confidence, weightTable_eq_ok_iff isSpelled_category,
      field_weight_eq_ok_iff, field_positive_eq_ok_iff, field_positiveInt_eq_ok_iff,
      pure_eq_ok_iff]
    constructor
    · rintro ⟨htable, severity, hseverity, confidence, hconfidence, category, hcategory, a, ha,
        b, hb, c, hc, d, hd, e, he, f, hf, cap, hcap, chars, hchars, rfl⟩
      refine ⟨htable, hseverity, hconfidence, hcategory, ?_, ?_⟩
      · simpa [Weights.fields] using ⟨ha, hb, hc, hd, he, hf⟩
      · simpa [Weights.counts] using ⟨hcap, hchars⟩
    · rintro ⟨htable, hseverity, hconfidence, hcategory, hfields, hcounts⟩
      obtain ⟨ha, hb, hc, hd, he, hf⟩ := by simpa [Weights.fields] using hfields
      obtain ⟨hcap, hchars⟩ := by simpa [Weights.counts] using hcounts
      exact ⟨htable, _, hseverity, _, hconfidence, _, hcategory, _, ha, _, hb, _, hc, _, hd, _, he,
        _, hf, _, hcap, _, hchars, rfl⟩

/-! ### Other sections -/

/-- Whether a flag is that of a section, if it is there. -/
def IsSummaryOnly (v : Option Value) (b : Bool) : Prop :=
  (∀ w ∈ v, w.isTable = true) ∧
    IsSetting (fun w b => w = .bool b) (v.bind (·.get? "summary_only")) false b

theorem readSummaryOnly_eq_ok_iff {v : Option Value} {b : Bool} :
    readSummaryOnly v = .ok b ↔ IsSummaryOnly v b := by
  unfold readSummaryOnly IsSummaryOnly
  rw [section?_bind_eq_ok_iff]
  refine and_congr_right fun _ => ?_
  cases v with
  | none => exact pure_eq_ok_iff.trans eq_comm
  | some v =>
    simp only [Option.bind_some]
    generalize v.get? "summary_only" = given
    unfold IsSetting
    split
    · exact pure_eq_ok_iff.trans eq_comm
    · simp [Value.bool]
    · rename_i w hnot
      simp only [throw_ne_ok, false_iff]
      rintro rfl
      exact hnot b rfl

/-- Whether kinds of comment are those of a section, if it is there. -/
def AreAllowed (v : Option Value) (types : List CommentType) : Prop :=
  (∀ w ∈ v, w.isTable = true) ∧
    IsSetting MeansTypes (v.bind (·.get? "allow")) [.inline, .summary] types

theorem readAllowedTypes_eq_ok_iff {v : Option Value} {types : List CommentType} :
    readAllowedTypes v = .ok types ↔ AreAllowed v types := by
  unfold readAllowedTypes AreAllowed
  rw [section?_bind_eq_ok_iff]
  refine and_congr_right fun _ => ?_
  cases v with
  | none => exact pure_eq_ok_iff.trans eq_comm
  | some v =>
    simp only [Option.bind_some]
    generalize v.get? "allow" = given
    unfold IsSetting
    split
    · exact pure_eq_ok_iff.trans eq_comm
    · simp only [throw_ne_ok, MeansTypes, Value.list.injEq, false_iff]
      rintro ⟨given, hne, hgiven, -⟩
      exact hne (List.map_eq_nil_iff.mp hgiven.symm)
    · rename_i items hnot
      simp only [readTypes_eq_ok_iff List.nodup_nil, List.nil_append, MeansTypes, Value.list.injEq]
      constructor
      · rintro ⟨given, rfl, rfl⟩
        refine ⟨given, ?_, rfl, rfl⟩
        rintro rfl
        exact hnot rfl
      · rintro ⟨given, -, rfl, rfl⟩
        exact ⟨given, rfl, rfl⟩
    · rename_i w hnil hlist
      simp only [throw_ne_ok, false_iff]
      rintro ⟨given, -, rfl, -⟩
      exact hlist _ rfl

theorem readIgnore_eq_ok_iff {v : Option Value} {globs : List String} :
    readIgnore v = .ok globs ↔ IsSetting MeansGlobs v Settings.default.ignore globs := by
  unfold readIgnore IsSetting
  split
  · simp [eq_comm]
  · simp only [readGlobs_eq_ok_iff, MeansGlobs, Value.list.injEq]
  · rename_i w hlist
    simp only [reduceCtorEq, false_iff]
    rintro ⟨texts, rfl, -⟩
    exact hlist _ rfl

/-! ### Settings -/

/-- Whether settings are those of a document over the defaults. -/
structure Settings.AreOf (s : Settings) (v : Value) : Prop where
  isTable : v.isNull = true ∨ v.isTable = true
  limits : s.limits.AreOf (v.get? "limits")
  weights : s.weights.AreOf (v.get? "scoring")
  summaryOnly : IsSummaryOnly (v.get? "output") s.summaryOnly
  allowedTypes : AreAllowed (v.get? "comment_types") s.allowedTypes
  ignore : IsSetting MeansGlobs (v.get? "ignore") Settings.default.ignore s.ignore

/-- What is read of the sections is what the document says of them. -/
theorem sections_eq_ok_iff {v : Value} {s : Settings} (hv : v.isNull = true ∨ v.isTable = true) :
    (∃ limits, Limits.ofValue (v.get? "limits") = .ok limits ∧
      ∃ weights, Weights.ofValue (v.get? "scoring") = .ok weights ∧
      ∃ summaryOnly, readSummaryOnly (v.get? "output") = .ok summaryOnly ∧
      ∃ allowedTypes, readAllowedTypes (v.get? "comment_types") = .ok allowedTypes ∧
      ∃ ignore, readIgnore (v.get? "ignore") = .ok ignore ∧
        (⟨limits, weights, summaryOnly, allowedTypes, ignore⟩ : Settings) = s) ↔ s.AreOf v := by
  simp only [limits_eq_ok_iff, weights_eq_ok_iff, readSummaryOnly_eq_ok_iff,
    readAllowedTypes_eq_ok_iff, readIgnore_eq_ok_iff]
  constructor
  · rintro ⟨limits, hlimits, weights, hweights, flag, hflag, types, htypes, globs, hglobs, rfl⟩
    exact ⟨hv, hlimits, hweights, hflag, htypes, hglobs⟩
  · rintro ⟨-, hlimits, hweights, hflag, htypes, hglobs⟩
    exact ⟨_, hlimits, _, hweights, _, hflag, _, htypes, _, hglobs, rfl⟩

theorem settings_eq_ok_iff {v : Value} {s : Settings} :
    Settings.ofValue v = .ok s ↔ s.AreOf v := by
  unfold Settings.ofValue
  split_ifs with hnull htable
  · -- No value has no fields.
    have hnone : ∀ name, v.get? name = none := by
      intro name
      cases v with
      | scalar a => rfl
      | list items => rfl
      | table entries => exact absurd hnull (by simp [Value.isNull])
    rw [← sections_eq_ok_iff (.inl hnull)]
    simp only [hnone]
    constructor
    · intro h
      obtain rfl := pure_eq_ok_iff.mp h
      exact ⟨_, rfl, _, rfl, _, rfl, _, rfl, _, rfl, rfl⟩
    · rintro ⟨_, hlimits, _, hweights, _, hflag, _, htypes, _, hglobs, rfl⟩
      rw [← Except.ok.inj hlimits, ← Except.ok.inj hweights, ← Except.ok.inj hflag,
        ← Except.ok.inj htypes, ← Except.ok.inj hglobs]
      rfl
  · rw [← sections_eq_ok_iff (.inr htable)]
    simp only [bind_eq_ok_iff, pure_eq_ok_iff]
  · simp only [throw_bind, throw_ne_ok, false_iff]
    rintro ⟨hv, -⟩
    rcases hv with hv | hv
    · exact hnull hv
    · exact htable hv

/-! ### Usable settings -/

/-- All weights, of the tables and alone. -/
def Weights.numbers (w : Weights) : List Number :=
  (all : List Severity).map w.severity ++ (all : List Confidence).map w.confidence ++
    (all : List Category).map w.category ++ fields.map (·.2 w)

/-- Whether a table of weights has an entry for each word of its vocabulary and no other one. -/
def IsOnWords {α : Type} [Vocabulary α] (f : α → Number) : Prop :=
  (∀ s, ((ofWord? s).map f).isSome = true ↔ s ∈ allWords α) ∧
    ∀ a, (ofWord? (word a)).map f = some (f a)

theorem isOnWords {α : Type} [Vocabulary α] (h : IsSpelled α) (f : α → Number) : IsOnWords f := by
  refine ⟨fun s => ?_, fun a => by rw [h a, Option.map_some]⟩
  rw [Option.isSome_map]
  unfold ofWord? allWords
  simp

/-- Whether settings can be worked with: there is something of each kind to show, kinds of comment
and globs say something, evidence is worth points, and there is a weight that is not less than zero
for whatever a finding says, as far as it is a number. -/
structure Settings.IsUsable (s : Settings) : Prop where
  limits : ∀ p ∈ Limits.fields, 1 ≤ p.2 s.limits
  counts : ∀ p ∈ Weights.counts, 1 ≤ p.2 s.weights
  weights : ∀ x ∈ s.weights.numbers, 0 ≤ x ↔ x.rank?.isSome = true
  severity : IsOnWords s.weights.severity
  confidence : IsOnWords s.weights.confidence
  category : IsOnWords s.weights.category
  types : s.allowedTypes ≠ [] ∧ s.allowedTypes.Nodup
  globs : ∀ glob ∈ s.ignore, glob ≠ "" ∧ Text.IsTrimmed glob.toList

theorem Number.zero_le_iff_of_not_lt {x : Number} (h : ¬ x < 0) :
    0 ≤ x ↔ x.rank?.isSome = true := by
  have hzero : (0 : Number).rank? = some ⟨0, 0⟩ := by
    show some (⟨0, 0 * _⟩ : Rank) = _
    rw [Int.zero_mul]
  rw [Number.lt_iff] at h
  rw [Number.le_iff]
  constructor
  · rintro ⟨r, s, -, hs, -⟩
    rw [hs]
    rfl
  · intro hsome
    obtain ⟨r, hr⟩ := Option.isSome_iff_exists.mp hsome
    refine ⟨⟨0, 0⟩, r, hzero, hr, ?_⟩
    rw [Rank.le_iff, ← not_lt, ← Rank.lt_iff]
    exact fun hlt => h ⟨r, ⟨0, 0⟩, hr, hzero, hlt⟩

/-- No default weight is less than zero. -/
theorem not_lt_zero_of_mem_default : ∀ x ∈ Weights.default.numbers, ¬ x < 0 := by
  decide +kernel

theorem not_lt_zero_of_isSetting {given : Option Value} {default x : Number}
    (h : IsSetting MeansWeight given default x) (hdefault : ¬ default < 0) : ¬ x < 0 :=
  h.of_forall (P := fun x => ¬ x < 0) hdefault fun _ _ hmeans => hmeans.2

theorem not_lt_zero_of_isSetting_table {α : Type} [Vocabulary α] [DecidableEq α]
    {given : Option Value} {base f : α → Number} (h : IsSetting (MeansTable base) given base f)
    (hbase : ∀ a, ¬ base a < 0) (a : α) : ¬ f a < 0 := by
  refine h.of_forall (P := fun f => ¬ f a < 0) (hbase a) ?_
  rintro v _ ⟨entries, given, -, hgiven, rfl⟩
  simp only
  cases hlookup : given.reverse.lookup a with
  | none => exact hbase a
  | some x =>
    obtain ⟨before, after, hsplit, -⟩ := List.lookup_eq_some_iff.mp hlookup
    have hmem : (a, x) ∈ given := by
      rw [← List.mem_reverse, hsplit]
      simp
    obtain ⟨e, -, -, hx⟩ := exists_mem_left hgiven hmem
    exact hx.2

theorem one_le_of_isSetting {given : Option Value} {default n : ℤ}
    (h : IsSetting MeansCount given default n) (hdefault : 1 ≤ default) : 1 ≤ n :=
  h.of_forall (P := fun n => 1 ≤ n) hdefault fun _ _ hmeans => hmeans.2

theorem Weights.AreOf.not_lt_zero {w : Weights} {v : Option Value} (h : w.AreOf v) :
    ∀ x ∈ w.numbers, ¬ x < 0 := by
  have hdefault := not_lt_zero_of_mem_default
  unfold numbers at hdefault ⊢
  simp only [List.forall_mem_append, List.forall_mem_map] at hdefault ⊢
  obtain ⟨⟨⟨hseverity, hconfidence⟩, hcategory⟩, hfields⟩ := hdefault
  refine ⟨⟨⟨fun a _ => ?_, fun a _ => ?_⟩, fun a _ => ?_⟩, fun p hp => ?_⟩
  · exact not_lt_zero_of_isSetting_table h.severity (fun b => hseverity b (by cases b <;> decide)) a
  · exact not_lt_zero_of_isSetting_table h.confidence
      (fun b => hconfidence b (by cases b <;> decide)) a
  · exact not_lt_zero_of_isSetting_table h.category (fun b => hcategory b (by cases b <;> decide)) a
  · exact not_lt_zero_of_isSetting (h.fields p hp) (hfields p hp)

theorem isUsable_of_areOf {s : Settings} {v : Value} (h : s.AreOf v) : s.IsUsable where
  limits p hp := by
    refine one_le_of_isSetting (h.limits.2 p hp) ?_
    revert p
    decide
  counts p hp := by
    refine one_le_of_isSetting (h.weights.counts p hp) ?_
    revert p
    decide
  weights x hx := Number.zero_le_iff_of_not_lt (h.weights.not_lt_zero x hx)
  severity := isOnWords isSpelled_severity _
  confidence := isOnWords isSpelled_confidence _
  category := isOnWords isSpelled_category _
  types := by
    refine h.allowedTypes.2.of_forall (P := fun types => types ≠ [] ∧ types.Nodup) (by decide) ?_
    rintro w _ ⟨given, hne, -, rfl⟩
    refine ⟨?_, nodup_eraseDups given⟩
    obtain ⟨t, given, rfl⟩ := List.exists_cons_of_ne_nil hne
    rw [List.eraseDups_cons]
    exact List.cons_ne_nil _ _
  globs := by
    have htrimmed : ∀ text, Text.IsTrimmed (Text.trimmed text).toList := by
      intro text
      rw [Text.trimmed, String.toList_ofList]
      exact Text.isTrimmed_trim _
    refine h.ignore.of_forall
      (P := fun globs => ∀ glob ∈ globs, glob ≠ "" ∧ Text.IsTrimmed glob.toList) ?_ ?_
    · have hdefault : ∀ glob ∈ Settings.default.ignore, glob ≠ "" ∧ Text.trimmed glob = glob := by
        decide
      intro glob hglob
      obtain ⟨hne, heq⟩ := hdefault glob hglob
      exact ⟨hne, heq ▸ htrimmed glob⟩
    · rintro w _ ⟨texts, -, rfl, hnot⟩ glob hglob
      refine ⟨fun hempty => hnot (hempty ▸ hglob), ?_⟩
      obtain ⟨text, -, rfl⟩ := List.mem_map.mp hglob
      exact htrimmed text

/-! ### Documents -/

/-- A document has the faults of a document only. -/
theorem isOfDocument_of_error {v : Value} (hv : ∃ depth, Json.IsDocument depth v)
    {e : SettingsError} (h : Settings.ofValue v = .error e) : e.IsOfDocument := by
  by_contra he
  refine not_failsWith_ofValue (P := fun e => ¬ e.IsOfDocument) (fun e h hnot => hnot h) v ?_
    ⟨e, h, he⟩
  intro sectionName name entries hentries place entry hentry
  obtain ⟨depth, hv⟩ := hv
  obtain ⟨w, hw, hfield⟩ := Option.bind_eq_some_iff.mp hentries
  have htable : Json.IsDocument depth (.table entries) :=
    ((hv.mono (Nat.le_add_right depth 2)).field (Json.field?_of_get? hw)).field
      (Json.field?_of_get? hfield)
  obtain ⟨key, hkey⟩ : ∃ key, entry.1 = .text key := by
    cases htable with
    | table keys _ => exact keys entry hentry
  rw [hkey]
  exact fun hnot => hnot trivial

/-- Settings are read of a document iff they are its settings, and then they are usable; a document
without settings is told what is wrong with it. -/
theorem settings_accepted (v : Value) (hv : ∃ depth, Json.IsDocument depth v) :
    (∀ s, Settings.ofValue v = .ok s ↔ s.AreOf v) ∧
    (∀ s : Settings, s.AreOf v → s.IsUsable) ∧
    ((¬ ∃ s : Settings, s.AreOf v) ↔ ∃ e, Settings.ofValue v = .error e ∧ e.IsOfDocument) := by
  refine ⟨fun s => settings_eq_ok_iff, fun s => isUsable_of_areOf, ?_⟩
  simp only [← settings_eq_ok_iff]
  cases h : Settings.ofValue v with
  | ok s => simp
  | error e => simpa using isOfDocument_of_error hv h

/-- A document that sets each kind of setting. -/
def fullSettings : Value :=
  .record [("limits", .record [("max_key_concerns", .int 3), ("max_inline_comments", .null)]),
    ("scoring", .record [("category", .record [("bug", .int 30)]), ("in_diff_boost", .int 0)]),
    ("output", .record [("summary_only", .bool true)]),
    ("comment_types", .record [("allow", .list [.text "summary", .text "summary"])]),
    ("ignore", .list [.text " build/** "])]

theorem settings_accepted_full : (∃ depth, Json.IsDocument depth fullSettings) ∧
    ∃ s : Settings, s.AreOf fullSettings ∧ s.IsUsable ∧ s.limits = ⟨20, 3, 8⟩ ∧
      s.weights.category .bug = 30 ∧ s.summaryOnly = true ∧ s.allowedTypes = [.summary] ∧
      s.ignore = ["build/**"] := by
  have hdocument : ∃ depth, Json.IsDocument depth fullSettings := by
    refine ⟨3, Json.isDocument_record ?_⟩
    simp only [List.forall_mem_cons, List.not_mem_nil, false_imp_iff, implies_true, and_true]
    refine ⟨Json.isDocument_record ?_, Json.isDocument_record ?_, Json.isDocument_record ?_,
      Json.isDocument_record ?_, .list ?_⟩
    · simp
    · simpa using Json.isDocument_record (by simp)
    · simp
    · simpa using Json.IsDocument.list (by simp)
    · simp
  obtain ⟨hread, husable, -⟩ := settings_accepted fullSettings hdocument
  have hshown : (Settings.ofValue fullSettings).map (fun s => (s.limits,
      s.weights.category .bug, s.summaryOnly, s.allowedTypes, s.ignore)) =
      .ok (⟨20, 3, 8⟩, 30, true, [.summary], ["build/**"]) := by
    decide +kernel
  obtain ⟨s, hs, heq⟩ := exists_ok_of_map_eq_ok hshown
  have hof := (hread s).mp hs
  exact ⟨hdocument, s, hof, husable s hof, by simpa using heq⟩

/-- A document that sets a weight to what is no number. -/
def undefinedPenalty : Value :=
  .record [("scoring", .record [("feedback_penalty", .real (.nan false))])]

/-- A weight that is no number is accepted, though it is not at least zero. -/
theorem not_zero_le_of_undefinedPenalty :
    ∃ s, Settings.ofValue undefinedPenalty = .ok s ∧ ¬ 0 ≤ s.weights.feedbackPenalty := by
  have hshown : (Settings.ofValue undefinedPenalty).map (fun s => s.weights.feedbackPenalty) =
      .ok (.real (.nan false)) := by
    decide +kernel
  obtain ⟨s, hs, hpenalty⟩ := exists_ok_of_map_eq_ok hshown
  refine ⟨s, hs, ?_⟩
  rw [hpenalty]
  decide +kernel

end Triage
