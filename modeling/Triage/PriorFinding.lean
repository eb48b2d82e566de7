import Triage.Finding.Reading
import Triage.Finding.Identity

/-!
# Prior findings

Findings that an earlier run left in a store, as far as matching needs them.
-/

namespace Triage

/-- The id that a store gave a finding. -/
inductive StoreId
  | number (n : Int)
  | name (s : String)
  deriving DecidableEq, Repr, Inhabited

/-- The id as a value. -/
def StoreId.toValue : StoreId → Value
  | number n => .int n
  | name s => .text s

/-- The id that a value is. -/
def StoreId.ofValue? (v : Value) : Option StoreId :=
  match v.int?, v.text? with
  | some n, _ => some (number n)
  | none, some s => some (name s)
  | none, none => none

/-- A finding of an earlier run. The fingerprint and the hunk hash are kept as the store has
them. -/
structure PriorFinding where
  id : StoreId
  path : String
  line : Nat
  side : Side
  severity : Severity
  category : Category
  title : String
  body : String
  fingerprint : Option Value
  hunkHash : Option Value

namespace PriorFinding

/-- Reads a prior finding. -/
def ofValue (v : Value) : Except FindingError PriorFinding := do
  unless v.isTable do throw .existingNotTable
  let id ← ((v.get? "id").bind StoreId.ofValue?).elim (throw .badId) pure
  let path ← requiredText "path" (v.get? "path")
  let line ← readLine (v.get? "line")
  let side ← readSide (v.get? "side")
  let severity ← requiredWord Severity "severity" (v.get? "severity")
  let category ← requiredWord Category "category" (v.get? "category")
  return {
    id, path, line, side, severity, category
    title := v.displayField "title"
    body := v.displayField "body"
    fingerprint := v.get? "fingerprint"
    hunkHash := v.getFirst? ["hunk_hash", "hunkHash"] }

/-- The match key that the finding was stored with; `none` if its fingerprint says nothing. -/
def storedMatchKey (p : PriorFinding) : Option String :=
  (p.fingerprint.bind Value.unlessVoid).map fun fingerprint =>
    let hunkHash := ((p.hunkHash.bind Value.unlessVoid).map Value.display).getD ""
    matchKeyOf fingerprint.display p.path hunkHash p.title

end PriorFinding

end Triage
