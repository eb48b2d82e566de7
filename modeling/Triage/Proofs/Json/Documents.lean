import Mathlib.Data.Int.Notation
import Mathlib.Data.List.Induction
import Mathlib.Data.List.TakeWhile
import Triage.Json.Reader
import Triage.Proofs.Guards
import Triage.Proofs.Traversal

/-!
# Documents that are read

What is read is a document (`isDocument_of_read`): its brackets are no deeper than the reader
allows, the keys of its tables are texts, and it has no scalars but those of the format.
-/

namespace Triage.Json

/-- Whether a value is a document that stands inside brackets of which `depth` more may be open. -/
inductive IsDocument : ℕ → Value → Prop
  | scalar {depth : ℕ} {s : Scalar} (plain : ∀ literal, s ≠ .other literal) :
    IsDocument depth (.scalar s)
  | list {depth : ℕ} {items : List Value} (parts : ∀ v ∈ items, IsDocument depth v) :
    IsDocument (depth + 1) (.list items)
  | table {depth : ℕ} {entries : List (Scalar × Value)}
    (keys : ∀ p ∈ entries, ∃ name, p.1 = .text name)
    (values : ∀ p ∈ entries, IsDocument depth p.2) : IsDocument (depth + 1) (.table entries)

theorem IsDocument.mono {m n : ℕ} {v : Value} (h : IsDocument m v) (hmn : m ≤ n) :
    IsDocument n v := by
  induction h generalizing n with
  | scalar plain => exact .scalar plain
  | list _ ih =>
    obtain ⟨n, rfl⟩ : ∃ k, n = k + 1 := ⟨n - 1, by omega⟩
    exact .list fun v hv => ih v hv (by omega)
  | table keys _ ih =>
    obtain ⟨n, rfl⟩ : ∃ k, n = k + 1 := ⟨n - 1, by omega⟩
    exact .table keys fun p hp => ih p hp (by omega)

theorem IsDocument.of_le_four [Nesting] {n : ℕ} {v : Value} (h : IsDocument n v) (hn : n ≤ 4) :
    IsDocument Nesting.brackets v :=
  h.mono (Nat.le_trans hn Nesting.four_le_brackets)

@[simp]
theorem isDocument_text (depth : ℕ) (s : String) : IsDocument depth (.text s) :=
  .scalar fun _ => Scalar.noConfusion

@[simp]
theorem isDocument_int (depth : ℕ) (n : ℤ) : IsDocument depth (.int n) :=
  .scalar fun _ => Scalar.noConfusion

@[simp]
theorem isDocument_nat (depth n : ℕ) : IsDocument depth (.nat n) :=
  isDocument_int depth n

@[simp]
theorem isDocument_real (depth : ℕ) (x : Double) : IsDocument depth (.real x) :=
  .scalar fun _ => Scalar.noConfusion

@[simp]
theorem isDocument_bool (depth : ℕ) (b : Bool) : IsDocument depth (.bool b) :=
  .scalar fun _ => Scalar.noConfusion

@[simp]
theorem isDocument_null (depth : ℕ) : IsDocument depth .null :=
  .scalar fun _ => Scalar.noConfusion

theorem isDocument_record {depth : ℕ} {fields : List (String × Value)}
    (h : ∀ p ∈ fields, IsDocument depth p.2) : IsDocument (depth + 1) (.record fields) := by
  refine .table ?_ ?_
  · intro p hp
    obtain ⟨q, -, rfl⟩ := List.mem_map.mp hp
    exact ⟨q.1, rfl⟩
  · intro p hp
    obtain ⟨q, hq, rfl⟩ := List.mem_map.mp hp
    exact h q hq

/-! ### Parts -/

/-- The value of a key is that of an entry. -/
theorem exists_mem_of_findEntry {k : Scalar} {v : Value} {entries : List (Scalar × Value)}
    (h : Value.findEntry k entries = some v) : ∃ p ∈ entries, p.2 = v := by
  induction entries with
  | nil => exact absurd h (by simp [Value.findEntry])
  | cons p entries ih =>
    obtain ⟨a, w⟩ := p
    rw [Value.findEntry] at h
    split_ifs at h with hkey
    · exact ⟨(a, w), List.mem_cons_self .., Option.some.inj h⟩
    · obtain ⟨q, hq, hv⟩ := ih h
      exact ⟨q, List.mem_cons_of_mem _ hq, hv⟩

/-- A field of a document is a document that stands one bracket deeper. -/
theorem IsDocument.field {depth : ℕ} {v w : Value} {name : String}
    (h : IsDocument (depth + 1) v) (hw : v.field? name = some w) : IsDocument depth w := by
  cases h with
  | scalar => exact absurd hw (by simp [Value.field?])
  | list => exact absurd hw (by simp [Value.field?])
  | table _ values =>
    obtain ⟨p, hp, rfl⟩ := exists_mem_of_findEntry hw
    exact values p hp

theorem field?_of_get? {v w : Value} {name : String} (h : v.get? name = some w) :
    v.field? name = some w :=
  (Option.filter_eq_some_iff.mp h).1

theorem mem_putEntry {k : Scalar} {v : Value} {entries : List (Scalar × Value)}
    {p : Scalar × Value} (h : p ∈ Value.putEntry k v entries) :
    (p.1 = k ∨ ∃ q ∈ entries, q.1 = p.1) ∧ (p.2 = v ∨ ∃ q ∈ entries, q.2 = p.2) := by
  induction entries with
  | nil =>
    obtain rfl := List.mem_singleton.mp h
    exact ⟨Or.inl rfl, Or.inl rfl⟩
  | cons q entries ih =>
    obtain ⟨a, w⟩ := q
    have hself : (a, w) ∈ (a, w) :: entries := List.mem_cons_self ..
    rw [Value.putEntry] at h
    split_ifs at h with hkey
    · rcases List.mem_cons.mp h with rfl | hp
      · exact ⟨Or.inr ⟨_, hself, rfl⟩, Or.inl rfl⟩
      · have hmem := List.mem_cons_of_mem (a, w) hp
        exact ⟨Or.inr ⟨p, hmem, rfl⟩, Or.inr ⟨p, hmem, rfl⟩⟩
    · rcases List.mem_cons.mp h with rfl | hp
      · exact ⟨Or.inr ⟨_, hself, rfl⟩, Or.inr ⟨_, hself, rfl⟩⟩
      · have hlift : ∀ {P : Scalar × Value → Prop}, (∃ q ∈ entries, P q) →
            ∃ q ∈ (a, w) :: entries, P q :=
          fun ⟨q, hq, hP⟩ => ⟨q, List.mem_cons_of_mem _ hq, hP⟩
        exact ⟨(ih hp).1.imp_right hlift, (ih hp).2.imp_right hlift⟩

/-- The keys and values of a table are those of the members that were put into it. -/
theorem forall_mem_foldl_putEntry {K : Scalar → Prop} {V : Value → Prop}
    {entries known : List (Scalar × Value)} (h : ∀ p ∈ entries, K p.1 ∧ V p.2)
    (hknown : ∀ p ∈ known, K p.1 ∧ V p.2) :
    ∀ p ∈ entries.foldl (fun t (k, v) => Value.putEntry k v t) known, K p.1 ∧ V p.2 := by
  induction entries generalizing known with
  | nil => exact hknown
  | cons q entries ih =>
    obtain ⟨k, v⟩ := q
    obtain ⟨hkv, h⟩ := List.forall_mem_cons.mp h
    refine ih h fun p hp => ?_
    obtain ⟨hkey, hvalue⟩ := mem_putEntry hp
    constructor
    · rcases hkey with hk | ⟨q, hq, hk⟩
      · rw [hk]
        exact hkv.1
      · rw [← hk]
        exact (hknown q hq).1
    · rcases hvalue with hv | ⟨q, hq, hv⟩
      · rw [hv]
        exact hkv.2
      · rw [← hv]
        exact (hknown q hq).2

/-! ### Reading -/

theorem decimalValue_lt {digits : List Char} (h : ∀ c ∈ digits, c.isDigit = true) :
    decimalValue digits < Nat.pow 10 digits.length := by
  unfold decimalValue
  induction digits using List.reverseRecOn with
  | nil => simp
  | append_singleton digits c ih =>
    have hc := h c (by simp)
    rw [Char.isDigit_iff_toNat, show '9'.toNat = 57 from rfl] at hc
    have hdigits := ih fun d hd => h d (List.mem_append_left [c] hd)
    have hpow : Nat.pow 10 (digits.length + 1) = Nat.pow 10 digits.length * 10 := rfl
    rw [List.foldl_append, List.foldl_cons, List.foldl_nil, List.length_append,
      List.length_singleton, hpow]
    omega

/-- An integer that is read has no more digits than may be written. -/
theorem exists_of_integerOf {isNegative : Bool} {digits : List Char} {s : Scalar}
    (hdigits : ∀ c ∈ digits, c.isDigit = true) (h : integerOf isNegative digits = .ok s) :
    ∃ n, s = .int n ∧ isWritable n = true := by
  rw [integerOf] at h
  by_cases hlong : maxIntegerDigits < digits.length
  · rw [if_pos hlong] at h
    exact absurd h (by simp)
  · rw [if_neg hlong] at h
    refine ⟨_, (Except.ok.inj h).symm, decide_eq_true ?_⟩
    have habs : ∀ m : ℕ, (if isNegative = true then -(m : ℤ) else m).natAbs = m := by
      intro m
      cases isNegative <;> simp
    rw [habs]
    have hlength := Nat.le_of_not_lt hlong
    generalize maxIntegerDigits = most at hlength ⊢
    exact Nat.lt_of_lt_of_le (decimalValue_lt hdigits) (Nat.pow_le_pow_right (by decide) hlength)

theorem readMagnitude_cases {isNegative : Bool} {cs rest : List Char} {s : Scalar}
    (h : readMagnitude isNegative cs = .ok (s, rest)) :
    (∃ n, s = .int n ∧ isWritable n = true) ∨ ∃ x, s = .real x := by
  unfold readMagnitude at h
  simp only at h
  have hwhole : ∀ c ∈ (if (cs.takeWhile Char.isDigit).head? = some '0' then ['0']
      else cs.takeWhile Char.isDigit), c.isDigit = true := by
    split_ifs
    · simp
    · exact fun c hc => List.mem_takeWhile_imp hc
  generalize (if (cs.takeWhile Char.isDigit).head? = some '0' then ['0']
    else cs.takeWhile Char.isDigit) = whole at h hwhole
  generalize readFraction (cs.drop whole.length) = fraction at h
  generalize readExponent fraction.2 = exponent at h
  by_cases hempty : whole.isEmpty = true
  · rw [if_pos hempty] at h
    exact absurd h (by simp)
  rw [if_neg hempty] at h
  by_cases hinteger : fraction.1.isEmpty = true ∧ exponent.1.isNone = true
  · rw [if_pos hinteger] at h
    obtain ⟨t, ht, heq⟩ := exists_ok_of_map_eq_ok h
    obtain ⟨rfl, -⟩ := Prod.mk.inj heq
    exact Or.inl (exists_of_integerOf hwhole ht)
  · rw [if_neg hinteger] at h
    obtain ⟨rfl, -⟩ := Prod.mk.inj (Except.ok.inj h)
    exact Or.inr ⟨_, rfl⟩

/-- A scalar that is read is a word, an integer that is not too long, or a double. -/
theorem readScalar_cases {cs rest : List Char} {s : Scalar}
    (h : readScalar cs = .ok (s, rest)) :
    (∃ p ∈ scalarWords, p.2 = s) ∨ (∃ n, s = .int n ∧ isWritable n = true) ∨ ∃ x, s = .real x := by
  unfold readScalar at h
  split at h
  · rename_i found hfound
    obtain rfl := Except.ok.inj h
    obtain ⟨p, hp, hword⟩ := List.exists_of_findSome?_eq_some hfound
    obtain ⟨after, -, heq⟩ := Option.map_eq_some_iff.mp hword
    exact Or.inl ⟨p, hp, (Prod.mk.inj heq).1⟩
  · split at h
    · exact Or.inr (readMagnitude_cases h)
    · exact Or.inr (readMagnitude_cases h)

/-- A scalar that is read is one of the format. -/
theorem plain_of_readScalar {cs rest : List Char} {s : Scalar}
    (h : readScalar cs = .ok (s, rest)) : ∀ literal, s ≠ .other literal := by
  rcases readScalar_cases h with ⟨p, hp, rfl⟩ | ⟨n, rfl, -⟩ | ⟨x, rfl⟩
  · have hwords : ∀ q ∈ scalarWords, ∀ literal, q.2 ≠ .other literal := by
      simp [scalarWords]
    exact hwords p hp
  · exact fun _ => Scalar.noConfusion
  · exact fun _ => Scalar.noConfusion

/-- Whether a property of values inside brackets, of which `depth` more may be open, passes from the
parts that are read to the whole. -/
structure PassesUp (M : ℕ → Value → Prop) : Prop where
  text : ∀ {depth s}, M depth (.text s)
  scalar : ∀ {depth cs s rest}, readScalar cs = .ok (s, rest) → M depth (.scalar s)
  list : ∀ {depth items}, (∀ v ∈ items, M depth v) → M (depth + 1) (.list items)
  table : ∀ {depth entries}, (∀ p ∈ entries, (∃ name, p.1 = .text name) ∧ M depth p.2) →
    M (depth + 1) (.table entries)

/-- Whether everything that is read with so much fuel has a property. -/
structure ReadsOnly (M : ℕ → Value → Prop) (fuel : ℕ) : Prop where
  value : ∀ {depth cs v rest}, readValue fuel depth cs = .ok (v, rest) → M depth v
  items : ∀ {depth items cs v rest}, (∀ w ∈ items, M depth w) →
    readItems fuel depth items cs = .ok (v, rest) → M (depth + 1) v
  members : ∀ {depth members cs v rest},
    (∀ p ∈ members, (∃ name, p.1 = .text name) ∧ M depth p.2) →
    readMembers fuel depth members cs = .ok (v, rest) → M (depth + 1) v

namespace ReadsOnly

variable {M : ℕ → Value → Prop} {fuel depth : ℕ} {cs rest : List Char} {v : Value}

theorem value_succ (hM : PassesUp M) (ih : ReadsOnly M fuel)
    (h : readValue (fuel + 1) depth cs = .ok (v, rest)) : M depth v := by
  rw [readValue.eq_def] at h
  simp only at h
  -- The first character tells a string, a list, a table and any other scalar apart.
  split at h
  · obtain ⟨p, -, hp⟩ := exists_ok_of_map_eq_ok h
    obtain ⟨rfl, -⟩ := Prod.mk.inj hp
    exact hM.text
  · split at h
    · exact absurd h (by simp)
    · split at h
      · obtain ⟨rfl, -⟩ := Prod.mk.inj (Except.ok.inj h)
        exact hM.list (by simp)
      · exact ih.items (by simp) h
  · split at h
    · exact absurd h (by simp)
    · split at h
      · obtain ⟨rfl, -⟩ := Prod.mk.inj (Except.ok.inj h)
        exact hM.table (by simp)
      · exact ih.members (by simp) h
  · obtain ⟨p, hread, hp⟩ := exists_ok_of_map_eq_ok h
    obtain ⟨rfl, -⟩ := Prod.mk.inj hp
    exact hM.scalar hread

theorem items_succ (hM : PassesUp M) (ih : ReadsOnly M fuel) {items : List Value}
    (hitems : ∀ w ∈ items, M depth w)
    (h : readItems (fuel + 1) depth items cs = .ok (v, rest)) : M (depth + 1) v := by
  rw [readItems] at h
  obtain ⟨⟨w, after⟩, hw, h⟩ := bind_eq_ok_iff.mp h
  have hall : ∀ u ∈ w :: items, M depth u := List.forall_mem_cons.mpr ⟨ih.value hw, hitems⟩
  simp only at h
  split at h
  · exact ih.items hall h
  · obtain ⟨rfl, -⟩ := Prod.mk.inj (pure_eq_ok_iff.mp h)
    exact hM.list fun u hu => hall u (List.mem_reverse.mp hu)
  · exact absurd h throw_ne_ok

theorem members_succ (hM : PassesUp M) (ih : ReadsOnly M fuel) {members : List (Scalar × Value)}
    (hmembers : ∀ p ∈ members, (∃ name, p.1 = .text name) ∧ M depth p.2)
    (h : readMembers (fuel + 1) depth members cs = .ok (v, rest)) : M (depth + 1) v := by
  rw [readMembers.eq_def] at h
  simp only at h
  split at h
  · obtain ⟨⟨name, afterName⟩, -, h⟩ := bind_eq_ok_iff.mp h
    simp only at h
    split at h
    · obtain ⟨⟨w, after⟩, hw, h⟩ := bind_eq_ok_iff.mp h
      have hall : ∀ p ∈ (Scalar.text name, w) :: members,
          (∃ name, p.1 = .text name) ∧ M depth p.2 :=
        List.forall_mem_cons.mpr ⟨⟨⟨name, rfl⟩, ih.value hw⟩, hmembers⟩
      simp only at h
      split at h
      · exact ih.members hall h
      · obtain ⟨rfl, -⟩ := Prod.mk.inj (pure_eq_ok_iff.mp h)
        have hreversed : ∀ p ∈ ((Scalar.text name, w) :: members).reverse,
            (∃ name, p.1 = .text name) ∧ M depth p.2 := fun p hp => hall p (List.mem_reverse.mp hp)
        exact hM.table
          (forall_mem_foldl_putEntry (K := fun k => ∃ name, k = .text name) (V := M depth) hreversed
            fun p hp => absurd hp List.not_mem_nil)
      · exact absurd h throw_ne_ok
    · exact absurd h throw_ne_ok
  · exact absurd h (by simp)

end ReadsOnly

/-- What passes up holds of everything that is read, since it is put together of what is read with
less fuel. -/
theorem PassesUp.readsOnly {M : ℕ → Value → Prop} (hM : PassesUp M) (fuel : ℕ) :
    ReadsOnly M fuel := by
  induction fuel with
  | zero =>
    refine ⟨fun h => ?_, fun _ h => ?_, fun _ h => ?_⟩
    · exact absurd h (by simp [readValue])
    · exact absurd h (by simp [readItems])
    · exact absurd h (by simp [readMembers])
  | succ fuel ih => exact ⟨ih.value_succ hM, ih.items_succ hM, ih.members_succ hM⟩

theorem PassesUp.of_read [Nesting] {M : ℕ → Value → Prop} (hM : PassesUp M) {text : String}
    {v : Value} (h : read text = .ok v) : M Nesting.brackets v := by
  unfold read at h
  obtain ⟨⟨w, rest⟩, hw, h⟩ := bind_eq_ok_iff.mp h
  simp only at h
  split_ifs at h
  · obtain rfl := pure_eq_ok_iff.mp h
    exact (hM.readsOnly _).value hw

theorem passesUp_isDocument : PassesUp IsDocument where
  text := isDocument_text ..
  scalar h := .scalar (plain_of_readScalar h)
  list := .list
  table h := .table (fun p hp => (h p hp).1) (fun p hp => (h p hp).2)

/-- What is read is a document. -/
theorem isDocument_of_read [Nesting] {text : String} {v : Value} (h : read text = .ok v) :
    IsDocument Nesting.brackets v :=
  passesUp_isDocument.of_read h

end Triage.Json
