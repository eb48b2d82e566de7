import Triage.Finding.Identity
import Triage.Limit
import Triage.Path
import Triage.Text.Quoted
import Triage.Text.Tokens

/-!
# Canonical findings

The form in which findings are compared: texts tidied, the path relative, an id and a key filled in.
-/

namespace Triage

/-- A function on characters as one on strings. -/
def onChars (f : List Char → List Char) (s : String) : String :=
  String.ofList (f s.toList)

/-- A patch without blank ends of lines; one that is empty then is no patch. -/
def canonicalPatch (patch : Option String) : Option String :=
  (patch.map (onChars Text.tidy)).filter (· ≠ "")

/-- A text, or another one if it is empty. -/
def orElse (s other : String) : String :=
  if s = "" then other else s

namespace Finding

/-- A finding with its texts tidied and its path relative. -/
def tidied (f : Finding) : Finding :=
  { f with
    path := Path.relative f.path
    title := onChars Text.singleLine f.title
    body := onChars Text.tidy f.body
    evidence := onChars Text.tidy f.evidence
    suggestedPatch := canonicalPatch f.suggestedPatch
    id := onChars Text.singleLine f.id
    key := onChars Text.singleLine f.key }

/-- The canonical form of a finding. -/
def canonical (f : Finding) : Finding :=
  let g := f.tidied
  { g with id := orElse g.id g.defaultId, key := orElse g.key g.defaultKey }

/-- Whether the path and the title have bytes, if an id or a key has to be made of them. -/
def isIdentifiable (f : Finding) : Bool :=
  let g := f.tidied
  (g.id ≠ "" && g.key ≠ "") || (Text.isEncodable g.path && Text.isEncodable g.title)

/-- The canonical form of a finding, if its id and key can be made. -/
def toCanonical (f : Finding) : Except LimitError Finding :=
  if f.isIdentifiable then .ok f.canonical else .error .unencodable

/-- Whether title, body and evidence all say something. -/
def isMeaningful (f : Finding) : Bool :=
  Text.isMeaningful f.title && Text.isMeaningful f.body && Text.isMeaningful f.evidence

end Finding

end Triage
