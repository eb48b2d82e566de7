import Triage.Proofs.Json.Documents
import Triage.Proofs.Json.Doubles
import Triage.Proofs.Json.Strings

/-!
# Documents that are written

A document with short integers is read back from its text (`read_indented`). All of it is as it was
but for doubles, which may be read as other ones, and for members of one name, of which the last one
counts (`reread`).
-/

namespace Triage.Json

/-! ### Documents -/

/-- Whether a scalar is no integer, or one that is short enough to be written. -/
def isShort : Scalar → Bool
  | .int n => isWritable n
  | _ => true

mutual

/-- Whether every integer of a value is short enough to be written. -/
def hasShortIntegers : Value → Bool
  | .scalar s => isShort s
  | .list items => haveShortIntegers items
  | .table entries => membersHaveShortIntegers entries

/-- Whether every integer of items is short enough. -/
def haveShortIntegers : List Value → Bool
  | [] => true
  | v :: rest => hasShortIntegers v && haveShortIntegers rest

/-- Whether every integer of members is short enough. -/
def membersHaveShortIntegers : List (Scalar × Value) → Bool
  | [] => true
  | (_, v) :: rest => hasShortIntegers v && membersHaveShortIntegers rest

end

theorem haveShortIntegers_iff {items : List Value} :
    haveShortIntegers items = true ↔ ∀ v ∈ items, hasShortIntegers v = true := by
  induction items with
  | nil => simp [haveShortIntegers]
  | cons v items ih => rw [haveShortIntegers, Bool.and_eq_true, ih, List.forall_mem_cons]

theorem membersHaveShortIntegers_iff {entries : List (Scalar × Value)} :
    membersHaveShortIntegers entries = true ↔ ∀ p ∈ entries, hasShortIntegers p.2 = true := by
  induction entries with
  | nil => simp [membersHaveShortIntegers]
  | cons p entries ih => rw [membersHaveShortIntegers, Bool.and_eq_true, ih, List.forall_mem_cons]

theorem hasShortIntegers_record_iff {fields : List (String × Value)} :
    hasShortIntegers (.record fields) = true ↔ ∀ p ∈ fields, hasShortIntegers p.2 = true := by
  unfold Value.record
  rw [hasShortIntegers, membersHaveShortIntegers_iff, List.forall_mem_map]

theorem hasShortIntegers_field {v w : Value} {name : String} (h : hasShortIntegers v = true)
    (hw : v.field? name = some w) : hasShortIntegers w = true := by
  cases v with
  | scalar s => exact absurd hw (by simp [Value.field?])
  | list items => exact absurd hw (by simp [Value.field?])
  | table entries =>
    obtain ⟨p, hp, rfl⟩ := exists_mem_of_findEntry hw
    exact membersHaveShortIntegers_iff.mp h p hp

theorem isShort_of_readScalar {cs rest : List Char} {s : Scalar}
    (h : readScalar cs = .ok (s, rest)) : isShort s = true := by
  rcases readScalar_cases h with ⟨p, hp, rfl⟩ | ⟨n, rfl, hn⟩ | ⟨x, rfl⟩
  · have hwords : ∀ q ∈ scalarWords, isShort q.2 = true := by
      simp [scalarWords, isShort]
    exact hwords p hp
  · exact hn
  · rfl

theorem passesUp_hasShortIntegers : PassesUp fun _ v => hasShortIntegers v = true where
  text := rfl
  scalar h := isShort_of_readScalar h
  list h := haveShortIntegers_iff.mpr h
  table h := membersHaveShortIntegers_iff.mpr fun p hp => (h p hp).2

/-- What is read can be written. -/
theorem hasShortIntegers_of_read [Nesting] {text : String} {v : Value}
    (h : read text = .ok v) : hasShortIntegers v = true :=
  passesUp_hasShortIntegers.of_read h

/-- The double that the text of a double is read as. -/
def rereadReal (x : Double) : Double :=
  match readScalar (scalar (.real x)).toList with
  | .ok (.real y, _) => y
  | _ => x

/-- The scalar that the text of a scalar is read as. -/
def rereadScalar : Scalar → Scalar
  | .real x => .real (rereadReal x)
  | s => s

mutual

/-- What the text of a document is read as. -/
def reread : Value → Value
  | .scalar s => .scalar (rereadScalar s)
  | .list items => .list (rereadItems items)
  | .table entries => .ofEntries (rereadMembers entries)

/-- What the texts of items are read as. -/
def rereadItems : List Value → List Value
  | [] => []
  | v :: rest => reread v :: rereadItems rest

/-- What the texts of members are read as. -/
def rereadMembers : List (Scalar × Value) → List (Scalar × Value)
  | [] => []
  | (k, v) :: rest => (k, reread v) :: rereadMembers rest

end

/-! ### Scalars -/

theorem endsNumber_nil : EndsNumber [] :=
  fun _ hc => absurd hc (by simp)

theorem readScalar_real (x : Double) {rest : List Char} (hrest : EndsNumber rest) :
    readScalar ((scalar (.real x)).toList ++ rest) = .ok (.real (rereadReal x), rest) := by
  obtain ⟨-, y, hy⟩ := exists_readScalar_real x
  have halone := hy [] endsNumber_nil
  rw [List.append_nil] at halone
  rw [rereadReal, halone]
  exact hy rest hrest

/-- A scalar without quotes is read back, and its text begins as such texts do. -/
theorem readScalar_scalar {s : Scalar} (hplain : ∀ literal, s ≠ .other literal)
    (hshort : isShort s = true) (htext : ∀ t, s ≠ .text t) :
    StartsScalar (scalar s).toList ∧ ∀ rest, EndsNumber rest →
      readScalar ((scalar s).toList ++ rest) = .ok (rereadScalar s, rest) := by
  cases s with
  | null => exact ⟨⟨'n', _, rfl, by decide⟩, fun _ _ => rfl⟩
  | bool b => cases b with
    | true => exact ⟨⟨'t', _, rfl, by decide⟩, fun _ _ => rfl⟩
    | false => exact ⟨⟨'f', _, rfl, by decide⟩, fun _ _ => rfl⟩
  | int n => exact readScalar_int hshort
  | real x => exact ⟨(exists_readScalar_real x).1, fun _ hrest => readScalar_real x hrest⟩
  | text t => exact absurd rfl (htext t)
  | other s => exact absurd rfl (hplain s)

/-! ### How the texts of values begin -/

/-- Whether a text begins with what neither a blank nor the end of a list is. -/
def StartsValue (cs : List Char) : Prop :=
  ∃ c rest, cs = c :: rest ∧ isSpace c = false ∧ c ≠ ']'

theorem StartsScalar.head {cs : List Char} (h : StartsScalar cs) :
    ∃ c rest, cs = c :: rest ∧ isSpace c = false ∧ c ∉ ['"', '[', ']', '\x7b'] := by
  obtain ⟨c, rest, rfl, hc⟩ := h
  refine ⟨c, rest, rfl, ?_⟩
  rcases hc with hdigit | hletter
  · have hne : ∀ d : Char, d.isDigit = false → c ≠ d := by
      rintro d hd rfl
      rw [hdigit] at hd
      exact absurd hd (by decide)
    have hmarks : ([' ', '\t', '\n', '\r', '"', '[', ']', '\x7b'].all fun d => d.isDigit = false) =
        true := by decide
    have hspace : ∀ d ∈ [' ', '\t', '\n', '\r', '"', '[', ']', '\x7b'], c ≠ d :=
      fun d hd => hne d (of_decide_eq_true (List.all_eq_true.mp hmarks d hd))
    simp only [List.mem_cons, List.not_mem_nil, or_false, forall_eq_or_imp, forall_eq] at hspace
    simp [isSpace, hspace]
  · simp only [List.mem_cons, List.not_mem_nil, or_false] at hletter
    rcases hletter with rfl | rfl | rfl | rfl | rfl | rfl <;> decide

theorem skipSpace_append {cs : List Char} (h : StartsValue cs) (rest : List Char) :
    skipSpace (cs ++ rest) = cs ++ rest := by
  obtain ⟨c, more, rfl, hspace, -⟩ := h
  rw [skipSpace, List.cons_append, List.dropWhile_cons_of_neg (by simp [hspace])]

theorem skipSpace_newLine (level : ℕ) (cs : List Char) :
    skipSpace ((newLine level).toList ++ cs) = skipSpace cs := by
  have hblank : ∀ c ∈ (newLine level).toList, isSpace c = true := by
    intro c hc
    rw [newLine, String.toList_ofList, List.mem_cons] at hc
    rcases hc with rfl | hc
    · decide
    · rw [List.eq_of_mem_replicate hc]
      decide
  unfold skipSpace
  rw [List.dropWhile_append_of_pos hblank]

/-! ### Lists and tables -/

/-- The text between the parts at a level. -/
def separated (level : ℕ) (parts : List String) : List Char :=
  (("," ++ newLine level).intercalate parts).toList

theorem separated_singleton (level : ℕ) (part : String) : separated level [part] = part.toList := by
  rw [separated, String.intercalate_singleton]

theorem separated_cons_cons (level : ℕ) (part next : String) (parts : List String) :
    separated level (part :: next :: parts) =
      part.toList ++ ',' :: ((newLine level).toList ++ separated level (next :: parts)) := by
  rw [separated, separated, String.intercalate_cons_cons]
  simp only [String.toList_append, List.append_assoc]
  rfl

theorem StartsValue.append {cs : List Char} (h : StartsValue cs) (ds : List Char) :
    StartsValue (cs ++ ds) := by
  obtain ⟨c, rest, rfl, hc⟩ := h
  exact ⟨c, rest ++ ds, rfl, hc⟩

theorem startsValue_separated {level : ℕ} {part : String} (h : StartsValue part.toList)
    (parts : List String) : StartsValue (separated level (part :: parts)) := by
  cases parts with
  | nil =>
    rw [separated_singleton]
    exact h
  | cons next parts =>
    rw [separated_cons_cons]
    exact h.append _

/-- Parts between brackets. -/
theorem toList_bracketed (level : ℕ) (left right : String) (part : String) (parts : List String) :
    (bracketed .indented level left right (part :: parts)).toList =
      left.toList ++ ((newLine (level + 1)).toList ++ (separated (level + 1) (part :: parts) ++
        ((newLine level).toList ++ right.toList))) := by
  unfold bracketed
  rw [if_neg (by simp)]
  simp only [String.toList_append, List.append_assoc]
  rfl

theorem endsNumber_comma (cs : List Char) : EndsNumber (',' :: cs) := by
  intro c hc
  obtain rfl : ',' = c := Option.some.inj hc
  decide

theorem endsNumber_newLine (level : ℕ) (cs : List Char) :
    EndsNumber ((newLine level).toList ++ cs) := by
  rw [newLine, String.toList_ofList]
  intro c hc
  obtain rfl : '\n' = c := Option.some.inj hc
  decide

/-- Whether the text of a value is read back, inside brackets of which `depth` more may be open. -/
structure ReadsBack (depth : ℕ) (v : Value) : Prop where
  starts : ∀ level, StartsValue (write .indented level v).toList
  reads : ∀ level fuel rest, (write .indented level v).toList.length ≤ fuel → EndsNumber rest →
    readValue fuel depth ((write .indented level v).toList ++ rest) = .ok (reread v, rest)

theorem readsBack_scalar {depth : ℕ} {s : Scalar} (hplain : ∀ literal, s ≠ .other literal)
    (hshort : isShort s = true) : ReadsBack depth (.scalar s) := by
  by_cases htext : ∃ t, s = .text t
  · obtain ⟨t, rfl⟩ := htext
    have hquoted : ∀ level, (write .indented level (.scalar (.text t))).toList =
        '"' :: (escapeAll t.toList ++ ['"']) := fun _ => toList_string t
    constructor
    · intro level
      rw [hquoted]
      exact ⟨'"', _, rfl, by decide, by decide⟩
    · intro level fuel rest hfuel _
      rw [hquoted] at hfuel ⊢
      obtain ⟨fuel, rfl⟩ : ∃ n, fuel = n + 1 :=
        ⟨fuel - 1, by rw [List.length_cons] at hfuel; omega⟩
      rw [List.cons_append, List.append_assoc, List.singleton_append, readValue,
        readString_escapeAll]
      rfl
  · obtain ⟨hstarts, hreads⟩ := readScalar_scalar hplain hshort fun t ht => htext ⟨t, ht⟩
    obtain ⟨c, cs, hcs, hspace, hc⟩ := hstarts.head
    have hwrite : ∀ level, (write .indented level (.scalar s)).toList = c :: cs := fun _ => hcs
    simp only [List.mem_cons, List.not_mem_nil, or_false, not_or] at hc
    constructor
    · intro level
      rw [hwrite]
      exact ⟨c, cs, rfl, hspace, hc.2.2.1⟩
    · intro level fuel rest hfuel hrest
      have hread := hreads rest hrest
      rw [hcs] at hread
      rw [hwrite] at hfuel ⊢
      obtain ⟨fuel, rfl⟩ : ∃ n, fuel = n + 1 :=
        ⟨fuel - 1, by rw [List.length_cons] at hfuel; omega⟩
      rw [List.cons_append] at hread ⊢
      -- No bracket and no quote comes first, so that a scalar is read.
      unfold readValue
      split
      · rename_i heq
        exact absurd (List.cons.inj heq).1 hc.1
      · rename_i heq
        exact absurd (List.cons.inj heq).1 hc.2.1
      · rename_i heq
        exact absurd (List.cons.inj heq).1 hc.2.2.2
      · rw [hread]
        rfl

/-- The items of a list, one after another up to the closing bracket. -/
theorem readItems_separated {depth : ℕ} (level : ℕ) (rest : List Char) {v : Value}
    {items : List Value} (h : ∀ w ∈ v :: items, ReadsBack depth w) (known : List Value)
    {fuel : ℕ}
    (hfuel : (separated (level + 1) (writeItems .indented (level + 1) (v :: items))).length <
      fuel) :
    readItems fuel depth known
        (separated (level + 1) (writeItems .indented (level + 1) (v :: items)) ++
          ((newLine level).toList ++ ']' :: rest)) =
      .ok (.list (known.reverse ++ rereadItems (v :: items)), rest) := by
  have hclosing : skipSpace ((newLine level).toList ++ ']' :: rest) = ']' :: rest := by
    rw [skipSpace_newLine]
    rfl
  induction items generalizing v known fuel with
  | nil =>
    obtain ⟨fuel, rfl⟩ : ∃ n, fuel = n + 1 := ⟨fuel - 1, by omega⟩
    have hv := h v (List.mem_cons_self ..)
    rw [writeItems, writeItems, separated_singleton] at hfuel ⊢
    rw [readItems, hv.reads _ _ _ (by omega) (endsNumber_newLine _ _)]
    simp [bind, Except.bind, hclosing, rereadItems, pure, Except.pure]
  | cons w items ih =>
    obtain ⟨fuel, rfl⟩ : ∃ n, fuel = n + 1 := ⟨fuel - 1, by omega⟩
    have hv := h v (List.mem_cons_self ..)
    have htext : separated (level + 1) (writeItems .indented (level + 1) (v :: w :: items)) =
        (write .indented (level + 1) v).toList ++ ',' :: ((newLine (level + 1)).toList ++
          separated (level + 1) (writeItems .indented (level + 1) (w :: items))) :=
      separated_cons_cons ..
    have hnext : StartsValue (separated (level + 1)
        (writeItems .indented (level + 1) (w :: items))) :=
      startsValue_separated ((h w (by simp)).starts (level + 1)) _
    rw [htext, List.length_append, List.length_cons, List.length_append] at hfuel
    have hshort : (separated (level + 1) (writeItems .indented (level + 1) (w :: items))).length <
        fuel := by omega
    have hrest := ih (fun u hu => h u (List.mem_cons_of_mem _ hu)) (reread v :: known) hshort
    rw [htext, List.append_assoc, List.cons_append, List.append_assoc, readItems,
      hv.reads _ _ _ (by omega) (endsNumber_comma _)]
    have hcomma : ∀ cs, skipSpace (',' :: cs) = ',' :: cs := fun _ => rfl
    simp only [bind, Except.bind, hcomma, skipSpace_newLine, skipSpace_append hnext, hrest]
    simp [rereadItems]

/-- The text of a member, its name in front. -/
theorem toList_member (level : ℕ) (name : String) (v : Value) :
    (memberName (.text name) ++ ": " ++ write .indented level v).toList =
      '"' :: (escapeAll name.toList ++ '"' :: ':' :: ' ' :: (write .indented level v).toList) := by
  rw [String.toList_append, String.toList_append, memberName, toList_string]
  simp

theorem length_write_le_member (level : ℕ) (name : String) (v : Value) :
    (write .indented level v).toList.length ≤
      (memberName (.text name) ++ ": " ++ write .indented level v).toList.length := by
  rw [String.toList_append, List.length_append]
  omega

/-- Once a member is read, what stands behind it tells whether it is the last one. -/
theorem readMembers_member {depth level fuel : ℕ} {v : Value} (hv : ReadsBack depth v)
    (name : String) (known : List (Scalar × Value)) {after : List Char}
    (hfuel : (write .indented level v).toList.length ≤ fuel) (hafter : EndsNumber after) :
    readMembers (fuel + 1) depth known
        ((memberName (.text name) ++ ": " ++ write .indented level v).toList ++ after) =
      match skipSpace after with
      | ',' :: more => readMembers fuel depth ((.text name, reread v) :: known) (skipSpace more)
      | '\x7d' :: rest => .ok (.ofEntries ((.text name, reread v) :: known).reverse, rest)
      | _ => .error .malformed := by
  have hcolon : ∀ cs, skipSpace (':' :: cs) = ':' :: cs := fun _ => rfl
  have hblank : ∀ cs, skipSpace (' ' :: cs) = skipSpace cs := fun _ => rfl
  rw [toList_member]
  simp only [List.cons_append, List.append_assoc]
  rw [readMembers, readString_escapeAll]
  simp only [bind, Except.bind, hcolon, hblank, skipSpace_append (hv.starts level),
    hv.reads level fuel after hfuel hafter]
  rfl

/-- The members of a table, one after another up to the closing brace. -/
theorem readMembers_separated {depth : ℕ} (level : ℕ) (rest : List Char) {p : Scalar × Value}
    {entries : List (Scalar × Value)} (hkeys : ∀ q ∈ p :: entries, ∃ name, q.1 = .text name)
    (h : ∀ q ∈ p :: entries, ReadsBack depth q.2) (known : List (Scalar × Value)) {fuel : ℕ}
    (hfuel : (separated (level + 1) (writeMembers .indented (level + 1) (p :: entries))).length <
      fuel) :
    readMembers fuel depth known
        (separated (level + 1) (writeMembers .indented (level + 1) (p :: entries)) ++
          ((newLine level).toList ++ '\x7d' :: rest)) =
      .ok (.ofEntries (known.reverse ++ rereadMembers (p :: entries)), rest) := by
  induction entries generalizing p known fuel with
  | nil =>
    obtain ⟨fuel, rfl⟩ : ∃ n, fuel = n + 1 := ⟨fuel - 1, by omega⟩
    obtain ⟨k, v⟩ := p
    obtain ⟨name, rfl⟩ := hkeys _ (List.mem_cons_self ..)
    have hv : ReadsBack depth v := h _ (List.mem_cons_self ..)
    have hclosing : skipSpace ((newLine level).toList ++ '\x7d' :: rest) = '\x7d' :: rest := by
      rw [skipSpace_newLine]
      rfl
    have hshort := length_write_le_member (level + 1) name v
    rw [writeMembers, writeMembers, separated_singleton] at hfuel ⊢
    rw [readMembers_member hv name known (by omega) (endsNumber_newLine _ _), hclosing]
    simp [rereadMembers]
  | cons q entries ih =>
    obtain ⟨fuel, rfl⟩ : ∃ n, fuel = n + 1 := ⟨fuel - 1, by omega⟩
    obtain ⟨k, v⟩ := p
    obtain ⟨name, rfl⟩ := hkeys _ (List.mem_cons_self ..)
    have hv : ReadsBack depth v := h _ (List.mem_cons_self ..)
    have hnext : StartsValue (separated (level + 1)
        (writeMembers .indented (level + 1) (q :: entries))) := by
      obtain ⟨k, w⟩ := q
      obtain ⟨other, rfl⟩ := hkeys (k, w) (by simp)
      refine startsValue_separated ?_ _
      rw [toList_member]
      exact ⟨'"', _, rfl, by decide, by decide⟩
    have htext : separated (level + 1)
        (writeMembers .indented (level + 1) ((.text name, v) :: q :: entries)) =
        (memberName (.text name) ++ ": " ++ write .indented (level + 1) v).toList ++
          ',' :: ((newLine (level + 1)).toList ++
            separated (level + 1) (writeMembers .indented (level + 1) (q :: entries))) :=
      separated_cons_cons ..
    have hmember := length_write_le_member (level + 1) name v
    rw [htext, List.length_append, List.length_cons, List.length_append] at hfuel
    have hshort : (separated (level + 1)
        (writeMembers .indented (level + 1) (q :: entries))).length < fuel := by omega
    have hrest := ih (fun u hu => hkeys u (List.mem_cons_of_mem _ hu))
      (fun u hu => h u (List.mem_cons_of_mem _ hu)) ((.text name, reread v) :: known) hshort
    have hcomma : ∀ cs, skipSpace (',' :: cs) = ',' :: cs := fun _ => rfl
    rw [htext, List.append_assoc, List.cons_append, List.append_assoc,
      readMembers_member hv name known (by omega) (endsNumber_comma _)]
    simp only [hcomma, skipSpace_newLine, skipSpace_append hnext, hrest]
    simp [rereadMembers]

/-! ### Whole documents -/

theorem readsBack_list {depth : ℕ} {items : List Value} (h : ∀ v ∈ items, ReadsBack depth v) :
    ReadsBack (depth + 1) (.list items) := by
  cases items with
  | nil =>
    have hwrite : ∀ level, (write .indented level (.list [])).toList = ['[', ']'] := by
      intro level
      rw [write, writeItems, bracketed, if_pos List.isEmpty_nil, String.toList_append]
      rfl
    constructor
    · intro level
      exact ⟨'[', _, hwrite level, by decide, by decide⟩
    · intro level fuel rest hfuel _
      rw [hwrite] at hfuel ⊢
      obtain ⟨fuel, rfl⟩ : ∃ n, fuel = n + 1 := ⟨fuel - 1, by simp at hfuel; omega⟩
      rfl
  | cons v items =>
    have hwrite : ∀ level, (write .indented level (.list (v :: items))).toList =
        '[' :: ((newLine (level + 1)).toList ++
          (separated (level + 1) (writeItems .indented (level + 1) (v :: items)) ++
            ((newLine level).toList ++ [']']))) := by
      intro level
      rw [write, writeItems]
      exact toList_bracketed level "[" "]" _ _
    have hstarts : ∀ level, StartsValue (separated (level + 1)
        (writeItems .indented (level + 1) (v :: items))) := fun level =>
      startsValue_separated ((h v (List.mem_cons_self ..)).starts (level + 1)) _
    constructor
    · intro level
      exact ⟨'[', _, hwrite level, by decide, by decide⟩
    · intro level fuel rest hfuel _
      rw [hwrite] at hfuel ⊢
      simp only [List.length_cons, List.length_append, List.length_nil] at hfuel
      obtain ⟨fuel, rfl⟩ : ∃ n, fuel = n + 1 := ⟨fuel - 1, by omega⟩
      have hshort : (separated (level + 1)
          (writeItems .indented (level + 1) (v :: items))).length < fuel := by omega
      have hitems := readItems_separated level rest h [] hshort
      simp only [List.cons_append, List.append_assoc, List.nil_append]
      rw [readValue]
      simp only [skipSpace_newLine, skipSpace_append (hstarts level)]
      -- The first item does not begin with the closing bracket.
      split
      · rename_i heq
        obtain ⟨c, more, hc, -, hne⟩ := hstarts level
        rw [hc] at heq
        exact absurd (List.cons.inj heq).1 hne
      · exact hitems

theorem readsBack_table {depth : ℕ} {entries : List (Scalar × Value)}
    (hkeys : ∀ p ∈ entries, ∃ name, p.1 = .text name)
    (h : ∀ p ∈ entries, ReadsBack depth p.2) : ReadsBack (depth + 1) (.table entries) := by
  cases entries with
  | nil =>
    have hwrite : ∀ level, (write .indented level (.table [])).toList = ['\x7b', '\x7d'] := by
      intro level
      rw [write, writeMembers, bracketed, if_pos List.isEmpty_nil, String.toList_append]
      rfl
    constructor
    · intro level
      exact ⟨'\x7b', _, hwrite level, by decide, by decide⟩
    · intro level fuel rest hfuel _
      rw [hwrite] at hfuel ⊢
      obtain ⟨fuel, rfl⟩ : ∃ n, fuel = n + 1 := ⟨fuel - 1, by simp at hfuel; omega⟩
      rfl
  | cons p entries =>
    have hwrite : ∀ level, (write .indented level (.table (p :: entries))).toList =
        '\x7b' :: ((newLine (level + 1)).toList ++
          (separated (level + 1) (writeMembers .indented (level + 1) (p :: entries)) ++
            ((newLine level).toList ++ ['\x7d']))) := by
      intro level
      rw [write, writeMembers]
      exact toList_bracketed level "\x7b" "\x7d" _ _
    obtain ⟨name, hname⟩ := hkeys p (List.mem_cons_self ..)
    have hquote : ∀ level, ∃ more, separated (level + 1)
        (writeMembers .indented (level + 1) (p :: entries)) = '"' :: more := by
      intro level
      obtain ⟨k, v⟩ := p
      obtain rfl : k = .text name := hname
      rw [writeMembers]
      cases entries with
      | nil => exact ⟨_, by rw [writeMembers, separated_singleton, toList_member]⟩
      | cons q entries =>
        exact ⟨_, by rw [writeMembers, separated_cons_cons, toList_member, List.cons_append]⟩
    constructor
    · intro level
      exact ⟨'\x7b', _, hwrite level, by decide, by decide⟩
    · intro level fuel rest hfuel _
      rw [hwrite] at hfuel ⊢
      simp only [List.length_cons, List.length_append, List.length_nil] at hfuel
      obtain ⟨fuel, rfl⟩ : ∃ n, fuel = n + 1 := ⟨fuel - 1, by omega⟩
      have hshort : (separated (level + 1)
          (writeMembers .indented (level + 1) (p :: entries))).length < fuel := by omega
      have hmembers := readMembers_separated level rest hkeys h [] hshort
      obtain ⟨more, hmore⟩ := hquote level
      simp only [List.cons_append, List.append_assoc, List.nil_append]
      rw [readValue]
      rw [hmore, List.cons_append] at hmembers
      simp only [skipSpace_newLine, hmore, List.cons_append]
      exact hmembers

theorem IsDocument.readsBack {depth : ℕ} {v : Value} (h : IsDocument depth v)
    (hshort : hasShortIntegers v = true) : ReadsBack depth v := by
  induction h with
  | scalar plain =>
    rw [hasShortIntegers] at hshort
    exact readsBack_scalar plain hshort
  | list _ ih =>
    rw [hasShortIntegers, haveShortIntegers_iff] at hshort
    exact readsBack_list fun v hv => ih v hv (hshort v hv)
  | table keys _ ih =>
    rw [hasShortIntegers, membersHaveShortIntegers_iff] at hshort
    exact readsBack_table keys fun p hp => ih p hp (hshort p hp)

/-- A document with short integers is read back from its text. -/
theorem read_indented [Nesting] {v : Value} (h : IsDocument Nesting.brackets v)
    (hshort : hasShortIntegers v = true) : read (indented v ++ "\n") = .ok (reread v) := by
  have hback := h.readsBack hshort
  have htext : (indented v ++ "\n").toList = (write .indented 0 v).toList ++ ['\n'] :=
    String.toList_append
  have hread := hback.reads 0
    (2 * ((write .indented 0 v).toList ++ ['\n']).length + 2) ['\n']
    (by rw [List.length_append]; omega) (endsNumber_newLine 0 [])
  unfold read
  simp only [htext, skipSpace_append (hback.starts 0), hread, bind, Except.bind]
  rfl

end Triage.Json
