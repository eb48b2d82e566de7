import Mathlib.Data.List.DropRight
import Triage.Proofs.Json.Numbers

/-!
# Doubles in JSON

The text of a double is read as a double (`exists_readScalar_real`), since it has one of the forms
of numbers with a fraction or an exponent: with its point in place, or with an exponent behind the
first of its leading digits.
-/

namespace Triage.Json

variable {run rest : List Char}

/-! ### Forms -/


/-- What stands behind the whole part of a double: a fraction, an exponent, or both. -/
inductive IsTail : List Char → Prop
  | fraction {ds : List Char} (hds : IsRun ds) : IsTail ('.' :: ds)
  | exponent {mark : Char} {es : List Char} (hmark : mark = '-' ∨ mark = '+') (hes : IsRun es) :
    IsTail ('e' :: mark :: es)
  | both {ds es : List Char} {mark : Char} (hds : IsRun ds) (hmark : mark = '-' ∨ mark = '+')
    (hes : IsRun es) : IsTail ('.' :: (ds ++ 'e' :: mark :: es))

/-- What has the form of a double is read as one, whatever follows. -/
theorem IsTail.exists_readMagnitude {tail : List Char} (h : IsTail tail) (hrun : IsWhole run)
    (isNegative : Bool) :
    ∃ x, ∀ rest, EndsNumber rest →
      readMagnitude isNegative (run ++ (tail ++ rest)) = .ok (.real x, rest) := by
  cases h with
  | @fraction ds hds =>
    refine ⟨realOf isNegative run ds 0, fun rest hrest => ?_⟩
    have hdigit : ∀ c ∈ rest.head?, c.isDigit = false := fun c hc => (hrest c hc).1
    have hpoint : ∀ c ∈ ('.' :: ds ++ rest).head?, c.isDigit = false := by simp
    have hne : ¬ds.isEmpty = true := fun h => hds.nonempty (List.isEmpty_iff.mp h)
    rw [readMagnitude_append isNegative hrun hpoint (readFraction_point hds hdigit)
      (readExponent_of_endsNumber hrest), if_neg fun h => hne h.1]
    rfl
  | @exponent mark es hmark hes =>
    obtain ⟨n, hn⟩ := exists_readExponent hmark hes
    refine ⟨realOf isNegative run [] n, fun rest hrest => ?_⟩
    have hletter : ∀ c ∈ ('e' :: mark :: (es ++ rest)).head?, c.isDigit = false := by simp
    have hread := readMagnitude_append isNegative hrun hletter rfl (hn rest hrest)
    rwa [if_neg (by simp)] at hread
  | @both ds es mark hds hmark hes =>
    obtain ⟨n, hn⟩ := exists_readExponent hmark hes
    refine ⟨realOf isNegative run ds n, fun rest hrest => ?_⟩
    have hletter : ∀ c ∈ ('e' :: mark :: (es ++ rest)).head?, c.isDigit = false := by simp
    have hpoint : ∀ c ∈ ('.' :: (ds ++ 'e' :: mark :: (es ++ rest))).head?,
        c.isDigit = false := by
      simp
    have hread := readMagnitude_append isNegative hrun hpoint (readFraction_point hds hletter)
      (hn rest hrest)
    rw [if_neg (by simp)] at hread
    have hsplit : '.' :: (ds ++ 'e' :: mark :: es) ++ rest =
        '.' :: (ds ++ 'e' :: mark :: (es ++ rest)) := by simp
    rwa [hsplit]

/-! ### The texts of doubles -/

/-- The leading digits of a positive decimal, as they are written, and where their point stands. -/
structure AreSignificant (ds : List Char) (point : ℤ) : Prop where
  digits : ∀ c ∈ ds, c.isDigit = true
  head : ds.head? ≠ some '0'
  empty : ds = [] → point = 1

theorem areSignificant_of_pos {d : Double.Decimal} (h : 0 < d.digits) :
    AreSignificant (Double.significant d).1 (Double.significant d).2 := by
  have hfirst : (Double.significant d).1 <+: Nat.toDigits 10 d.digits :=
    List.rdropWhile_prefix _ _
  -- Zeros are dropped from the end, and the first digit is none.
  have hne : (Double.significant d).1 ≠ [] := by
    intro hnil
    have hall : ∀ c ∈ Nat.toDigits 10 d.digits, (c == '0') = true :=
      List.rdropWhile_eq_nil_iff.mp hnil
    obtain ⟨c, cs, hcs⟩ :=
      List.exists_cons_of_ne_nil (Nat.toDigits_ne_nil (n := d.digits) (b := 10))
    have hc := hall c (hcs ▸ List.mem_cons_self ..)
    have hhead := head?_toDigits_ne h
    rw [hcs, List.head?_cons, eq_of_beq hc] at hhead
    exact hhead rfl
  exact {
    digits := fun c hc => Nat.isDigit_of_mem_toDigits (by decide) (by decide) (hfirst.subset hc)
    head := by
      obtain ⟨rest, hrest⟩ := hfirst
      have hhead := head?_toDigits_ne h
      rwa [← hrest, List.head?_append_of_ne_nil _ hne] at hhead
    empty := fun hnil => absurd hnil hne }

/-- What is found to read back does. -/
theorem ofDecimal_of_readingBack {m : ℕ} {places : ℤ} {d : Double.Decimal}
    (h : Double.readingBack m places = some d) :
    Double.ofDecimal d.digits d.exponent = .finite false m := by
  unfold Double.readingBack at h
  simp only at h
  split_ifs at h with hboth hnearer hlow hhigh
  all_goals obtain rfl := Option.some.inj h
  · exact eq_of_beq (Bool.and_eq_true_iff.mp hboth).1
  · exact eq_of_beq (Bool.and_eq_true_iff.mp hboth).2
  · exact eq_of_beq hlow
  · exact eq_of_beq hhigh

theorem shortest_cases {m : ℕ} (h : m ≠ 0) :
    0 < (Double.shortest m).digits ∨ Double.shortest m = ⟨0, 0⟩ := by
  unfold Double.shortest
  simp only
  cases hfound : (List.range 17).findSome? fun (i : ℕ) =>
      Double.readingBack m (i - Double.leadingExponent m) with
  | none => exact Or.inr rfl
  | some d =>
    left
    obtain ⟨i, -, hi⟩ := List.exists_of_findSome?_eq_some hfound
    have hback := ofDecimal_of_readingBack hi
    show 0 < d.digits
    rw [Nat.pos_iff_ne_zero]
    -- Without digits it would read back as zero.
    intro hzero
    rw [hzero, Double.ofDecimal, if_pos (Or.inl rfl), Double.zero, Double.finite.injEq] at hback
    exact h hback.2.symm

theorem areSignificant_shortest {m : ℕ} (h : m ≠ 0) :
    AreSignificant (Double.significant (Double.shortest m)).1
      (Double.significant (Double.shortest m)).2 := by
  rcases shortest_cases h with hpos | hzero
  · exact areSignificant_of_pos hpos
  · rw [hzero]
    exact ⟨List.all_eq_true.mp (by decide), by decide, fun _ => by decide⟩

theorem IsRun.append {cs ds : List Char} (hcs : ∀ c ∈ cs, c.isDigit = true) (hds : IsRun ds) :
    IsRun (cs ++ ds) where
  digits := by
    intro c hc
    rcases List.mem_append.mp hc with hc | hc
    · exact hcs c hc
    · exact hds.digits c hc
  nonempty := List.append_ne_nil_of_right_ne_nil _ hds.nonempty

theorem isDigit_of_mem_zeros {n : ℕ} {c : Char} (h : c ∈ List.replicate n '0') :
    c.isDigit = true := by
  rw [List.eq_of_mem_replicate h]
  decide

/-- The exponent of a double in its text. -/
theorem isRun_exponent (n : ℕ) :
    IsRun (if (Nat.toDigits 10 n).length < 2 then '0' :: Nat.toDigits 10 n
      else Nat.toDigits 10 n) := by
  split_ifs
  · have hzero : ∀ c ∈ ['0'], c.isDigit = true := List.forall_mem_singleton.mpr (by decide)
    exact (isRun_toDigits n).append hzero
  · exact isRun_toDigits n

/-- The whole part of a double that is written with its point in place. -/
theorem isWhole_positional {ds : List Char} {point : ℤ} (h : AreSignificant ds point)
    (hpoint : 0 < point) :
    IsWhole (ds.take point.toNat ++ List.replicate (point.toNat - ds.length) '0') where
  digits := by
    intro c hc
    rcases List.mem_append.mp hc with hc | hc
    · exact h.digits c (List.mem_of_mem_take hc)
    · exact isDigit_of_mem_zeros hc
  nonempty := by
    rw [← List.length_pos_iff, List.length_append, List.length_take, List.length_replicate]
    omega
  zero := by
    intro hzero
    cases ds with
    | nil =>
      rw [h.empty rfl]
      rfl
    | cons c ds =>
      obtain ⟨n, hn⟩ : ∃ n, point.toNat = n + 1 := ⟨point.toNat - 1, by omega⟩
      rw [hn, List.take_succ_cons, List.cons_append, List.head?_cons] at hzero
      exact absurd hzero h.head

/-- Whether a text is a whole part with a fraction or an exponent. -/
def IsReal (text : String) : Prop :=
  ∃ run tail, text.toList = run ++ tail ∧ IsWhole run ∧ IsTail tail

theorem isReal_zero {ds : List Char} (hds : IsRun ds) (zeros : ℕ) :
    IsReal ("0." ++ String.ofList (List.replicate zeros '0' ++ ds)) := by
  refine ⟨['0'], '.' :: (List.replicate zeros '0' ++ ds), ?_, isWhole_toDigits 0, ?_⟩
  · simp only [String.toList_append, String.toList_ofList]
    rfl
  · exact .fraction (.append (fun _ => isDigit_of_mem_zeros) hds)

theorem isReal_positional {ds : List Char} {point : ℤ} (h : AreSignificant ds point)
    (hpoint : 0 < point) :
    IsReal (String.ofList (ds.take point.toNat ++
        List.replicate (point.toNat - ds.length) '0') ++ "." ++
      (if (ds.drop point.toNat).isEmpty then "0" else String.ofList (ds.drop point.toNat))) := by
  refine ⟨_, '.' :: (if (ds.drop point.toNat).isEmpty then ['0'] else ds.drop point.toNat), ?_,
    isWhole_positional h hpoint, ?_⟩
  · split_ifs
    · simp only [String.toList_append, String.toList_ofList, List.append_assoc]
      rfl
    · simp only [String.toList_append, String.toList_ofList, List.append_assoc]
      rfl
  · split_ifs with hempty
    · exact .fraction (isRun_toDigits 0)
    · refine .fraction ⟨fun c hc => h.digits c (List.mem_of_mem_drop hc), ?_⟩
      exact fun hnil => hempty (List.isEmpty_iff.mpr hnil)

theorem isReal_scientific {ds es : List Char} {point : ℤ} (h : AreSignificant ds point)
    (hpoint : point ≠ 1) (hes : IsRun es) :
    IsReal (String.ofList (ds.take 1) ++
      (if (ds.drop 1).isEmpty then "" else "." ++ String.ofList (ds.drop 1)) ++
      (if point - 1 < 0 then "e-" else "e+") ++ String.ofList es) := by
  -- The exponent is written with its sign in any case.
  obtain ⟨mark, hmark, htext⟩ : ∃ mark, (mark = '-' ∨ mark = '+') ∧
      (if point - 1 < 0 then "e-" else "e+").toList = ['e', mark] := by
    split_ifs
    · exact ⟨'-', Or.inl rfl, rfl⟩
    · exact ⟨'+', Or.inr rfl, rfl⟩
  cases ds with
  | nil => exact absurd (h.empty rfl) hpoint
  | cons c more =>
    have hwhole : IsWhole [c] := {
      digits := by
        intro d hd
        rw [List.mem_singleton.mp hd]
        exact h.digits c (List.mem_cons_self ..)
      nonempty := List.cons_ne_nil _ _
      zero := fun hzero => absurd hzero h.head }
    generalize (if point - 1 < 0 then "e-" else "e+") = sign at htext ⊢
    simp only [List.take_succ_cons, List.take_zero, List.drop_succ_cons, List.drop_zero]
    split_ifs with hempty
    · refine ⟨[c], 'e' :: mark :: es, ?_, hwhole, .exponent hmark hes⟩
      simp only [String.toList_append, String.toList_ofList, htext]
      rfl
    · have hmore : IsRun more := {
        digits := fun d hd => h.digits d (List.mem_cons_of_mem _ hd)
        nonempty := fun hnil => hempty (List.isEmpty_iff.mpr hnil) }
      refine ⟨[c], '.' :: (more ++ 'e' :: mark :: es), ?_, hwhole, .both hmore hmark hes⟩
      simp only [String.toList_append, String.toList_ofList, htext, List.append_assoc]
      rfl

/-- The text of a double is a whole part with a fraction or an exponent. -/
theorem isReal_unitsText {m : ℕ} (h : m ≠ 0) : IsReal (Double.unitsText m) := by
  have hsignificant := areSignificant_shortest h
  unfold Double.unitsText
  generalize Double.significant (Double.shortest m) = text at hsignificant ⊢
  obtain ⟨ds, point⟩ := text
  simp only at hsignificant ⊢
  by_cases hpositional : -4 < point ∧ point ≤ 16
  · rw [if_pos hpositional]
    by_cases hsmall : point ≤ 0
    · rw [if_pos hsmall]
      refine isReal_zero ⟨hsignificant.digits, ?_⟩ _
      -- With no digits at all the point would stand behind one place.
      intro hnil
      have hone := hsignificant.empty hnil
      omega
    · rw [if_neg hsmall]
      exact isReal_positional hsignificant (by omega)
  · rw [if_neg hpositional]
    exact isReal_scientific hsignificant (by omega) (isRun_exponent _)

/-- The text of a double is read as a double, whatever follows. -/
theorem exists_readScalar_real (x : Double) :
    StartsScalar (scalar (.real x)).toList ∧
      ∃ y, ∀ rest, EndsNumber rest →
        readScalar ((scalar (.real x)).toList ++ rest) = .ok (.real y, rest) := by
  cases x with
  | infinite isNegative => cases isNegative with
    | true => exact ⟨⟨'-', _, rfl, by decide⟩, .infinite true, fun rest _ => rfl⟩
    | false => exact ⟨⟨'I', _, rfl, by decide⟩, .infinite false, fun rest _ => rfl⟩
  | nan isNegative => cases isNegative with
    | true => exact ⟨⟨'N', _, rfl, by decide⟩, .nan false, fun rest _ => rfl⟩
    | false => exact ⟨⟨'N', _, rfl, by decide⟩, .nan false, fun rest _ => rfl⟩
  | finite isNegative m =>
    have hreal : IsReal (if m = 0 then "0.0" else Double.unitsText m) := by
      split_ifs with hm
      · exact ⟨['0'], ['.', '0'], rfl, isWhole_toDigits 0, .fraction (isRun_toDigits 0)⟩
      · exact isReal_unitsText hm
    obtain ⟨run, tail, htext, hrun, htail⟩ := hreal
    have htoText : scalar (.real (.finite isNegative m)) =
        Double.signText isNegative ++ if m = 0 then "0.0" else Double.unitsText m := rfl
    rw [htoText, String.toList_append, htext]
    cases isNegative with
    | true =>
      obtain ⟨y, hy⟩ := htail.exists_readMagnitude hrun true
      refine ⟨⟨'-', run ++ tail, rfl, by decide⟩, y, fun rest hrest => ?_⟩
      rw [List.append_assoc, List.append_assoc]
      exact (readScalar_append hrun.toIsRun (tail ++ rest)).2.trans (hy rest hrest)
    | false =>
      obtain ⟨y, hy⟩ := htail.exists_readMagnitude hrun false
      refine ⟨hrun.toIsRun.startsScalar tail, y, fun rest hrest => ?_⟩
      rw [List.append_assoc, List.append_assoc]
      exact (readScalar_append hrun.toIsRun (tail ++ rest)).1.trans (hy rest hrest)

end Triage.Json
