import Triage.Digest.Sha1
import Triage.Digest.Sha256
import Triage.Finding.Basic
import Triage.OrderedMap

/-!
# Identity

A finding is known again by what it says and where it is, never by a number that a store gave it.
Its fingerprint is a digest of its key and path; its match key adds the hunk that it is about and
its title. Within one run ids and keys are told apart by numbered suffixes.
-/

namespace Triage

open Vocabulary

/-- The fields of an identity as one text. -/
def joined (fields : List String) : String :=
  "|".intercalate fields

/-- The first characters of a text. -/
def firstChars (n : Nat) (s : String) : String :=
  String.ofList (s.toList.take n)

/-- The digits of an id that is made up. -/
def idLength : Nat := 12

/-- The digits of a key that is made up. -/
def keyLength : Nat := 16

namespace Finding

/-- The id of a finding that came without one. -/
def defaultId (f : Finding) : String :=
  firstChars idLength (Digest.Sha1.hex (joined [f.path, word f.side, toString f.line, f.title]))

/-- The key of a finding that came without one. -/
def defaultKey (f : Finding) : String :=
  firstChars keyLength
    (Digest.Sha1.hex (joined [f.path, toString f.line, word f.category, f.title]))

/-- The digest of the key and path of a finding. -/
def fingerprint (f : Finding) : String :=
  Digest.Sha256.hex (joined [f.key, f.path])

end Finding

/-- The match key made of its parts. -/
def matchKeyOf (fingerprint path hunkHash title : String) : String :=
  joined [fingerprint, path, hunkHash, title]

/-- What is equal for an issue that is stated again about the same hunk. -/
def Finding.matchKey (f : Finding) (hunkHash : String) : String :=
  matchKeyOf f.fingerprint f.path hunkHash f.title

/-! ### Suffixes -/

/-- The `k`-th name for a value, counted from zero: the value itself, then `-2`, `-3`, … after
it. -/
def numbered (s : String) (k : Nat) : String :=
  if k = 0 then s else s ++ "-" ++ toString (k + 1)

/-- How often each value was met. -/
abbrev Tally := OrderedMap String Nat

/-- How often a value was met. -/
def Tally.count (t : Tally) (s : String) : Nat :=
  (t.get? s).getD 0

/-- Meets a value once more. -/
def Tally.meet (t : Tally) (s : String) : Tally :=
  t.insert s (t.count s + 1)

/-- Numbers the repeated ids and keys of findings, after those already met. -/
def suffixFrom (ids keys : Tally) : List Finding → List Finding
  | [] => []
  | f :: rest =>
    { f with id := numbered f.id (ids.count f.id), key := numbered f.key (keys.count f.key) } ::
      suffixFrom (ids.meet f.id) (keys.meet f.key) rest

/-- Numbers repeated ids and, apart from them, repeated keys; what comes first stays as it is. -/
def suffixRepeats (findings : List Finding) : List Finding :=
  suffixFrom .empty .empty findings

end Triage
