import Triage.Yaml.Fault

/-!
# Tokens of YAML

What a YAML text is made of once its layout is understood: scalars, the marks of collections in
brackets, and the beginnings and ends of collections that indentation makes. Where the text cannot
be understood any further, its fault is the last token.
-/

namespace Triage.Yaml

/-- A tag as it is written: the handle of its namespace, if it has one, and the rest. -/
structure TagName where
  handle : Option String
  suffix : String
  deriving DecidableEq, Repr

/-- A line at the start of a text that is about the text. -/
inductive Directive
  | version (major minor : Nat)
  | namespaceTag (handle tagPrefix : String)
  | reserved
  deriving DecidableEq, Repr

/-- A token. -/
inductive Token
  | directive (d : Directive)
  | documentStart
  | documentEnd
  | blockSequenceStart
  | blockMappingStart
  | blockEnd
  | flowSequenceStart
  | flowSequenceEnd
  | flowMappingStart
  | flowMappingEnd
  | blockEntry
  | flowEntry
  | key
  | value
  | reference (name : String)
  | anchor (name : String)
  | tag (name : TagName)
  | scalar (text : String) (isPlain : Bool)
  | fault (f : Fault)
  deriving DecidableEq, Repr

end Triage.Yaml
