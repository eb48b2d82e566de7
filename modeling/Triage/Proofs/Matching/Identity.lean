import Triage.Proofs.Digest
import Triage.Proofs.Matching.Rereview
import Mathlib.Data.Set.Function

/-!
# What a match key tells of a finding

The fields of an identity are joined by bars, and may have bars themselves, so that two pairs of
fields can make the same text with the cut between them in different places (`joined_pair_eq_iff`).
A hunk hash has no bar. Hence a match key tells the key, the path and the title of a finding and the
hash of its hunk, as far as digests are told apart, but for paths in which another path stands
twice: in front, before the hash of its hunk, and at the end (`matchKey_eq_iff`).
-/

namespace Triage

/-! ### Joined fields -/

theorem joined_singleton (s : String) : joined [s] = s :=
  String.intercalate_singleton

theorem joined_cons_cons (s t : String) (rest : List String) :
    joined (s :: t :: rest) = joined [s, joined (t :: rest)] := by
  unfold joined
  rw [String.intercalate_cons_cons, String.intercalate_cons_cons, String.intercalate_singleton]

theorem joined_assoc (s t u : String) :
    joined [s, joined [t, u]] = joined [joined [s, t], u] := by
  simp only [joined, String.intercalate_cons_cons, String.intercalate_singleton,
    String.append_assoc]

theorem joined_append {ss ts : List String} (hss : ss ≠ []) (hts : ts ≠ []) :
    joined (ss ++ ts) = joined [joined ss, joined ts] := by
  induction ss with
  | nil => exact absurd rfl hss
  | cons s ss ih =>
    cases ss with
    | nil =>
      obtain ⟨t, rest, rfl⟩ := List.exists_cons_of_ne_nil hts
      rw [List.singleton_append, joined_cons_cons, joined_singleton]
    | cons s' ss =>
      have hrest := ih (List.cons_ne_nil s' ss)
      rw [List.cons_append] at hrest
      rw [List.cons_append, List.cons_append, joined_cons_cons s, hrest, joined_assoc,
        ← joined_cons_cons s]

theorem toList_joined_pair (s t : String) :
    (joined [s, t]).toList = s.toList ++ '|' :: t.toList := by
  simp [joined, String.intercalate_cons_cons, String.intercalate_singleton]

theorem length_joined_pair (s t : String) :
    (joined [s, t]).toList.length = s.toList.length + t.toList.length + 1 := by
  rw [toList_joined_pair, List.length_append, List.length_cons, Nat.add_assoc]

theorem append_cons_eq_append_cons_iff {α : Type} {as bs cs ds : List α} {x : α} :
    as ++ x :: bs = cs ++ x :: ds ↔
      as = cs ∧ bs = ds ∨ (∃ es, cs = as ++ x :: es ∧ bs = es ++ x :: ds) ∨
        ∃ es, as = cs ++ x :: es ∧ ds = es ++ x :: bs := by
  rw [List.append_eq_append_iff]
  constructor
  · rintro (⟨es, hcs, hbs⟩ | ⟨es, has, hds⟩)
    · cases es with
      | nil => exact Or.inl ⟨by rw [hcs, List.append_nil], (List.cons.inj hbs).2⟩
      | cons e es =>
        obtain ⟨rfl, rfl⟩ := List.cons.inj hbs
        exact Or.inr (Or.inl ⟨es, hcs, rfl⟩)
    · cases es with
      | nil => exact Or.inl ⟨by rw [has, List.append_nil], (List.cons.inj hds).2.symm⟩
      | cons e es =>
        obtain ⟨rfl, rfl⟩ := List.cons.inj hds
        exact Or.inr (Or.inr ⟨es, has, rfl⟩)
  · rintro (⟨rfl, rfl⟩ | ⟨es, rfl, rfl⟩ | ⟨es, rfl, rfl⟩)
    · exact Or.inl ⟨[], by simp⟩
    · exact Or.inl ⟨x :: es, rfl, rfl⟩
    · exact Or.inr ⟨x :: es, rfl, rfl⟩

/-- Two fields make the text of two others iff they are the same or one pair is cut behind the
other, at a bar in a field. -/
theorem joined_pair_eq_iff {s t u v : String} :
    joined [s, t] = joined [u, v] ↔
      s = u ∧ t = v ∨ (∃ x, u = joined [s, x] ∧ t = joined [x, v]) ∨
        ∃ x, s = joined [u, x] ∧ v = joined [x, t] := by
  have hlist {a b : String} {cs : List Char} (hb : b.toList = a.toList ++ '|' :: cs) :
      b = joined [a, String.ofList cs] := by
    rw [← String.toList_inj, toList_joined_pair, String.toList_ofList, hb]
  have hback {a : String} {cs : List Char} {b : String}
      (ha : a.toList = cs ++ '|' :: b.toList) : a = joined [String.ofList cs, b] := by
    rw [← String.toList_inj, toList_joined_pair, String.toList_ofList, ha]
  rw [← String.toList_inj, toList_joined_pair, toList_joined_pair, append_cons_eq_append_cons_iff]
  constructor
  · rintro (⟨hs, ht⟩ | ⟨es, hu, ht⟩ | ⟨es, hs, hv⟩)
    · exact Or.inl ⟨String.toList_inj.mp hs, String.toList_inj.mp ht⟩
    · exact Or.inr (Or.inl ⟨_, hlist hu, hback ht⟩)
    · exact Or.inr (Or.inr ⟨_, hlist hs, hback hv⟩)
  · rintro (⟨rfl, rfl⟩ | ⟨x, rfl, rfl⟩ | ⟨x, rfl, rfl⟩)
    · exact Or.inl ⟨rfl, rfl⟩
    · exact Or.inr (Or.inl ⟨_, toList_joined_pair .., toList_joined_pair ..⟩)
    · exact Or.inr (Or.inr ⟨_, toList_joined_pair .., toList_joined_pair ..⟩)

/-- A longer field is not the beginning of a shorter one. -/
theorem joined_pair_ne {s t x y : String} (h : s = joined [x, t]) : t ≠ joined [s, y] := by
  intro ht
  have hs := congrArg (fun s => s.toList.length) h
  have ht := congrArg (fun s => s.toList.length) ht
  simp only [length_joined_pair] at hs ht
  omega

theorem bar_mem_joined_pair (s t : String) : '|' ∈ (joined [s, t]).toList := by
  rw [toList_joined_pair]
  exact List.mem_append_right _ (List.mem_cons_self ..)

/-- A field without bars in front is cut off at the first bar. -/
theorem joined_pair_eq_of_notMem {s t u v : String} (hs : '|' ∉ s.toList)
    (h : joined [s, t] = joined [u, v]) :
    s = u ∧ t = v ∨ ∃ x, u = joined [s, x] ∧ t = joined [x, v] := by
  rcases joined_pair_eq_iff.mp h with hsame | hlonger | ⟨x, hsx, -⟩
  · exact Or.inl hsame
  · exact Or.inr hlonger
  · exact absurd (hsx ▸ bar_mem_joined_pair u x) hs

theorem joined_pair_right_inj {s t u : String} : joined [s, t] = joined [s, u] ↔ t = u := by
  rw [← String.toList_inj, toList_joined_pair, toList_joined_pair, List.append_cancel_left_eq,
    List.cons_inj_right, String.toList_inj]

/-! ### Hunk hashes -/

/-- Whether a text is what the hash of a hunk can be: 64 hexadecimal digits, or nothing. -/
def IsHunkHash (hash : String) : Prop :=
  hash = "" ∨ hash.toList.length = 64 ∧ ∀ c ∈ hash.toList, c.isHexDigit = true

theorem IsHunkHash.bar_notMem {hash : String} (h : IsHunkHash hash) : '|' ∉ hash.toList := by
  rcases h with rfl | ⟨-, hdigits⟩
  · exact List.not_mem_nil
  · exact fun hmem => absurd (hdigits _ hmem) (by decide)

theorem DiffIndex.isHunkHash_hunkHash (index : DiffIndex) (a : Anchor) :
    IsHunkHash (index.hunkHash a) := by
  unfold DiffIndex.hunkHash
  cases index.hunkAt? a with
  | none => exact Or.inl rfl
  | some h =>
    exact Or.inr ⟨Digest.Sha256.length_hex _, fun c => Digest.Sha256.isHexDigit_of_mem_hex⟩

/-! ### Match keys -/

namespace Finding

variable {f g : Finding} {hash hash' : String}

/-- The text that the fingerprint of a finding is the digest of. -/
def identityText (f : Finding) : String :=
  joined [f.key, f.path]

/-- Whether two findings about hunks agree in all that goes into their match keys. -/
structure IsSameAs (f : Finding) (hash : String) (g : Finding) (hash' : String) : Prop where
  key : f.key = g.key
  path : f.path = g.path
  title : f.title = g.title
  hunkHash : hash = hash'

/-- Whether the path of one finding holds that of another one twice, in front, before the hash of
its hunk, and at the end, and the other finding has what is left: its key goes on with the front of
the path, and its title begins with the rest. -/
def Overlaps (f : Finding) (hash : String) (g : Finding) (hash' : String) : Prop :=
  ∃ (front : String) (rest : List String),
    f.path = joined [front, g.path] ∧ g.key = joined [f.key, front] ∧
      f.path = joined (g.path :: hash' :: rest) ∧ g.title = joined (rest ++ [hash, f.title])

theorem matchKey_eq (f : Finding) (hash : String) :
    f.matchKey hash = joined [f.fingerprint, joined [f.path, joined [hash, f.title]]] := by
  unfold matchKey matchKeyOf
  rw [joined_cons_cons f.fingerprint f.path, joined_cons_cons f.path hash]

/-- Fingerprints have one length, so that a match key tells the fingerprint. -/
theorem matchKey_eq_iff_texts
    (hdigest : Set.InjOn Digest.Sha256.hex {f.identityText, g.identityText}) :
    f.matchKey hash = g.matchKey hash' ↔ f.identityText = g.identityText ∧
      joined [f.path, joined [hash, f.title]] = joined [g.path, joined [hash', g.title]] := by
  have hlength : ∀ {f g : Finding} {x : String}, f.fingerprint ≠ joined [g.fingerprint, x] := by
    intro f g x hlonger
    have hf : f.fingerprint.toList.length = 64 := Digest.Sha256.length_hex _
    have hg : g.fingerprint.toList.length = 64 := Digest.Sha256.length_hex _
    rw [hlonger, length_joined_pair, hg] at hf
    omega
  have htexts : f.fingerprint = g.fingerprint ↔ f.identityText = g.identityText :=
    hdigest.eq_iff (Set.mem_insert ..) (Set.mem_insert_of_mem _ rfl)
  rw [matchKey_eq, matchKey_eq, joined_pair_eq_iff, ← htexts]
  constructor
  · rintro (hsame | ⟨x, hlonger, -⟩ | ⟨x, hlonger, -⟩)
    · exact hsame
    · exact absurd hlonger hlength
    · exact absurd hlonger hlength
  · exact Or.inl

theorem overlaps_of_front {front : String} (hhash' : '|' ∉ hash'.toList)
    (hpath : f.path = joined [front, g.path]) (hkey : g.key = joined [f.key, front])
    (hrest : joined [f.path, joined [hash, f.title]] =
      joined [g.path, joined [hash', g.title]]) : f.Overlaps hash g hash' := by
  rcases joined_pair_eq_iff.mp hrest with ⟨hsame, -⟩ | ⟨x, hlonger, -⟩ | ⟨y, hfront, hbehind⟩
  · have hlength := congrArg (fun s => s.toList.length) (hpath.symm.trans hsame)
    simp only [length_joined_pair] at hlength
    omega
  · exact absurd hlonger (joined_pair_ne hpath)
  · -- Behind the path of `g`, the hash of its hunk comes first, as it has no bars.
    rcases joined_pair_eq_of_notMem hhash' hbehind with ⟨rfl, htitle⟩ | ⟨z, rfl, htitle⟩
    · exact ⟨front, [], hpath, hkey, hfront, htitle⟩
    · refine ⟨front, [z], hpath, hkey, ?_, ?_⟩
      · rw [hfront, joined_cons_cons g.path hash']
      · rw [htitle, List.singleton_append, joined_cons_cons z hash]

theorem Overlaps.texts (h : f.Overlaps hash g hash') :
    f.identityText = g.identityText ∧
      joined [f.path, joined [hash, f.title]] = joined [g.path, joined [hash', g.title]] := by
  obtain ⟨front, rest, hend, hkey, hfront, htitle⟩ := h
  constructor
  · rw [identityText, identityText, hend, hkey, joined_assoc]
  · have hne : rest ++ [hash, f.title] ≠ [] := by simp
    obtain ⟨t, ts, hts⟩ := List.exists_cons_of_ne_nil hne
    rw [hfront, ← joined_append (by simp) (by simp), List.cons_append, List.cons_append, htitle,
      hts, joined_cons_cons g.path hash', joined_cons_cons hash' t]

/-- Findings have the same match key iff they are the same as far as it goes, or the path of one
overlaps with that of the other. -/
theorem matchKey_eq_iff (hhash : '|' ∉ hash.toList) (hhash' : '|' ∉ hash'.toList)
    (hdigest : Set.InjOn Digest.Sha256.hex {f.identityText, g.identityText}) :
    f.matchKey hash = g.matchKey hash' ↔
      f.IsSameAs hash g hash' ∨ f.Overlaps hash g hash' ∨ g.Overlaps hash' f hash := by
  rw [matchKey_eq_iff_texts hdigest]
  constructor
  · rintro ⟨hidentity, hrest⟩
    rcases joined_pair_eq_iff.mp hidentity with ⟨hkey, hpath⟩ | ⟨x, hkey, hpath⟩ | ⟨x, hkey, hpath⟩
    · rw [hpath, joined_pair_right_inj] at hrest
      rcases joined_pair_eq_of_notMem hhash hrest with ⟨hsame, htitle⟩ | ⟨x, hlonger, -⟩
      · exact Or.inl ⟨hkey, hpath, htitle, hsame⟩
      · exact absurd (hlonger ▸ bar_mem_joined_pair hash x) hhash'
    · exact Or.inr (Or.inl (overlaps_of_front hhash' hpath hkey hrest))
    · exact Or.inr (Or.inr (overlaps_of_front hhash hpath hkey hrest.symm))
  · rintro (hsame | hoverlaps | hoverlaps)
    · rw [identityText, identityText, hsame.key, hsame.path, hsame.title, hsame.hunkHash]
      exact ⟨rfl, rfl⟩
    · exact hoverlaps.texts
    · exact ⟨hoverlaps.texts.1.symm, hoverlaps.texts.2.symm⟩

/-- A path that overlaps with another one has a bar. -/
theorem Overlaps.bar_mem_path (h : f.Overlaps hash g hash') : '|' ∈ f.path.toList := by
  obtain ⟨front, -, hend, -⟩ := h
  exact hend ▸ bar_mem_joined_pair front g.path

end Finding

/-! ### Exact matches -/

/-- Whether a match is one of some reconciliation. -/
def FindingMatch.IsOfRun (m : FindingMatch) : Prop :=
  ∃ findings prior index r, reconcile findings prior index = .ok r ∧ m ∈ r.matched

theorem FindingMatch.IsOfRun.exists_matchFinding {m : FindingMatch} (h : m.IsOfRun) :
    ∃ prior index before f, m = matchFinding prior index before f := by
  obtain ⟨findings, prior, index, r, hr, hm⟩ := h
  obtain ⟨-, rfl⟩ := reconcile_eq_ok_iff.mp hr
  obtain ⟨f, -, before, rfl⟩ := Triage.exists_matchFinding hm
  exact ⟨prior, index, before, f, rfl⟩

/-- A finding that is found exactly has the match key of the one that was stored. -/
theorem matchKey_eq_of_exact {m m' : FindingMatch} {id : StoreId} (hm : m.IsOfRun)
    (hm' : m'.IsOfRun) (hprior : m.prior = some (m'.toPrior id, .exact)) :
    m.finding.matchKey m.hunkHash = m'.finding.matchKey m'.hunkHash := by
  obtain ⟨prior, index, before, f, rfl⟩ := hm.exists_matchFinding
  obtain ⟨prior', index', before', g, rfl⟩ := hm'.exists_matchFinding
  have hstored := (prior_matchFinding_spec hprior).2.1 rfl
  rw [storedMatchKey_toPrior] at hstored
  exact (Option.some.inj hstored).symm

theorem FindingMatch.IsOfRun.isHunkHash {m : FindingMatch} (h : m.IsOfRun) :
    IsHunkHash m.hunkHash := by
  obtain ⟨prior, index, before, f, rfl⟩ := h.exists_matchFinding
  exact index.isHunkHash_hunkHash f.anchor

/-- As far as digests are told apart, two findings have one match key iff they have the same key,
path, title and hunk hash, or the path of one overlaps with that of the other, which takes a bar in
it; and so it is with findings of which one is found exactly where the other was stored. -/
theorem matchKey_tells_iff {f g : Finding} {hash hash' : String} (hhash : IsHunkHash hash)
    (hhash' : IsHunkHash hash')
    (hdigest : Set.InjOn Digest.Sha256.hex {f.identityText, g.identityText}) :
    (f.matchKey hash = g.matchKey hash' ↔
      f.IsSameAs hash g hash' ∨ f.Overlaps hash g hash' ∨ g.Overlaps hash' f hash) ∧
    ('|' ∉ f.path.toList → '|' ∉ g.path.toList → f.matchKey hash = g.matchKey hash' →
      f.IsSameAs hash g hash') ∧
    ∀ (m m' : FindingMatch) (id : StoreId), m.IsOfRun → m'.IsOfRun → m.finding = f →
      m'.finding = g → m.prior = some (m'.toPrior id, .exact) →
      f.IsSameAs m.hunkHash g m'.hunkHash ∨ f.Overlaps m.hunkHash g m'.hunkHash ∨
        g.Overlaps m'.hunkHash f m.hunkHash := by
  have hiff := Finding.matchKey_eq_iff hhash.bar_notMem hhash'.bar_notMem hdigest
  refine ⟨hiff, ?_, ?_⟩
  · intro hf hg hkeys
    rcases hiff.mp hkeys with hsame | hoverlaps | hoverlaps
    · exact hsame
    · exact absurd hoverlaps.bar_mem_path hf
    · exact absurd hoverlaps.bar_mem_path hg
  · rintro m m' id hm hm' rfl rfl hprior
    exact (Finding.matchKey_eq_iff hm.isHunkHash.bar_notMem hm'.isHunkHash.bar_notMem hdigest).mp
      (matchKey_eq_of_exact hm hm' hprior)

/-- The digits of a hash. -/
def someHash : String :=
  String.ofList (List.replicate 64 'a')

/-- A remark on a file with the name of another one twice in its own, around a hash. -/
def remarkAround (hash : String) : Finding :=
  { remark "k" "one" 2 with path := joined ["src/a.py", hash, "src/a.py"] }

/-- A remark on the other file, which has in its key and title what it lacks in its path. -/
def remarkBetween (hash hash' : String) : Finding :=
  remark (joined ["k", "src/a.py", hash']) (joined ["src/a.py", hash, "one"]) 2

/-- The remark on the first file overlaps with that on the other one. -/
theorem overlaps_remarkAround (hash hash' : String) :
    (remarkAround hash').Overlaps hash (remarkBetween hash hash') hash' := by
  refine ⟨joined ["src/a.py", hash'], ["src/a.py"], ?_, ?_, rfl, rfl⟩
  · exact @joined_append ["src/a.py", hash'] ["src/a.py"] (by simp) (by simp)
  · exact joined_cons_cons "k" "src/a.py" [hash']

theorem injOn_identityTexts (hash hash' : String) :
    Set.InjOn Digest.Sha256.hex
      {(remarkAround hash').identityText, (remarkBetween hash hash').identityText} := by
  rw [(overlaps_remarkAround hash hash').texts.1, Set.pair_eq_singleton]
  exact Set.injOn_singleton ..

/-- Two remarks on different files have one match key where the hunk of one has the hash that stands
in the name of the other file. -/
theorem matchKey_tells_iff_remarkAround :
    IsHunkHash someHash ∧
      (remarkAround someHash).matchKey someHash =
        (remarkBetween someHash someHash).matchKey someHash := by
  have hdigits : someHash.toList = List.replicate 64 'a' := String.toList_ofList
  have hhash : IsHunkHash someHash := by
    refine Or.inr ⟨?_, fun c hc => ?_⟩
    · rw [hdigits, List.length_replicate]
    · rw [hdigits] at hc
      rw [List.eq_of_mem_replicate hc]
      decide
  have hkeys := matchKey_tells_iff hhash hhash (injOn_identityTexts someHash someHash)
  exact ⟨hhash, hkeys.1.mpr (Or.inr (Or.inl (overlaps_remarkAround someHash someHash)))⟩

/-- What a first review stores of the remark on the first file. -/
def storedAround : PriorFinding :=
  (matchFinding [] .empty [] (remarkAround "")).toPrior (.number 1)

/-- Where neither file is in the diff, the remark on the other file is found exactly where that on
the first one was stored, though digests tell the hashed texts apart. -/
theorem not_isSameAs_remarkAround :
    Set.InjOn Digest.Sha256.hex
      {(remarkAround "").identityText, (remarkBetween "" "").identityText} ∧
    (remarkAround "").matchKey "" = (remarkBetween "" "").matchKey "" ∧
    ¬ (remarkAround "").IsSameAs "" (remarkBetween "" "") "" ∧
    ∃ r, reconcile [remarkBetween "" ""] [storedAround] .empty = .ok r ∧
      r.matched.map FindingMatch.prior = [some (storedAround, .exact)] := by
  have hdigest := injOn_identityTexts "" ""
  have hkeys : (remarkAround "").matchKey "" = (remarkBetween "" "").matchKey "" :=
    (Finding.matchKey_eq_iff List.not_mem_nil List.not_mem_nil hdigest).mpr
      (Or.inr (Or.inl (overlaps_remarkAround "" "")))
  have hstored : firstStored [storedAround] ((remarkBetween "" "").matchKeyIn .empty) =
      some storedAround := by
    apply List.find?_cons_of_pos
    rw [decide_eq_true_eq, storedAround, storedMatchKey_toPrior]
    exact congrArg some hkeys
  refine ⟨hdigest, hkeys, fun hsame => absurd hsame.path (by decide), _,
    reconcile_eq_ok_iff.mpr ⟨by decide, rfl⟩, ?_⟩
  have hfree : storedAround.id ∉ ([] : List StoreId) := List.not_mem_nil
  have hprior := findPrior_eq_exact hstored hfree (remarkBetween "" "")
  exact congrArg (fun p => [p]) hprior

end Triage
