import Triage.Command.Files

/-!
# Arguments

The options of the commands. An option may be written in full or by a beginning that no other option
has, with its value behind an equals sign or as the next argument; of two values the later one
counts.
-/

namespace Triage.Command

/-- The options that a command takes. -/
structure Usage where
  required : List String
  optional : List String
  flags : List String

/-- The options of a command line with their values. -/
abbrev Options := List (String × String)

/-- The full name of an option. -/
def fullName? (s : Usage) (name : String) : Option String :=
  let names := s.required ++ s.optional ++ s.flags
  if name ∈ names then some name
  else match names.filter fun n => name.toList.isPrefixOf n.toList with
    | [n] => some n
    | _ => none

/-- Splits an argument at its first equals sign. -/
def splitValue (arg : String) : String × Option String :=
  let cs := arg.toList
  match cs.dropWhile (· ≠ '=') with
  | [] => (arg, none)
  | _ :: value => (String.ofList (cs.takeWhile (· ≠ '=')), some (String.ofList value))

/-- Options that were read, the last one first, and the option that waits for its value. -/
structure Progress where
  found : Options
  waiting : Option String

/-- Reads an argument: the value of the option that waits, or an option. -/
def Progress.read (s : Usage) (p : Progress) (arg : String) : Option Progress :=
  match p.waiting with
  | some name => some ⟨(name, arg) :: p.found, none⟩
  | none => do
    let (written, value) := splitValue arg
    unless "--".toList.isPrefixOf written.toList && 2 < written.length do none
    let name ← fullName? s written
    match s.flags.contains name, value with
    | true, none => some p
    | true, some _ => none
    | false, none => some ⟨p.found, some name⟩
    | false, some v => some ⟨(name, v) :: p.found, none⟩

/-- Reads a command line. Every required option has to be there. -/
def options? (s : Usage) (args : List String) : Option Options := do
  let ⟨found, none⟩ ← args.foldlM (Progress.read s) ⟨[], none⟩ | none
  if s.required.all fun name => (found.lookup name).isSome then return found else none

/-- The file that a required option names. -/
def file (o : Options) (name : String) : String :=
  plainName ((o.lookup name).getD "")

/-- The file that an option names, unless its value is empty. -/
def file? (o : Options) (name : String) : Option String :=
  ((o.lookup name).filter (· ≠ "")).map plainName

end Triage.Command
