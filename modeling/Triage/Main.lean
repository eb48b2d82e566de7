import Triage.Command.Basic

/-!
# The program

`triage refine …` and `triage match …`: the files that the options name are read, the command runs
on their bytes, and its document is printed or written to the file of `--output`.
-/

open Triage Triage.Command

/-- The number of the error that a part of a path is no directory. -/
def notDirectoryCode : UInt32 := 20

/-- Why a file cannot be read. -/
def faultOf : IO.Error → FileFault
  | .noFileOrDirectory .. => .missing
  | .inappropriateType _ code _ => if code = notDirectoryCode then .notDirectory else .directory
  | _ => .other

/-- The bytes of a file. -/
def readBytes (name : String) : IO (Except FileFault (List UInt8)) := do
  if '\x00' ∈ name.toList then return .error .nullCharacter
  try
    let bytes ← IO.FS.readBinFile name
    return .ok bytes.toList
  catch e => return .error (faultOf e)

/-- The bytes of all files that options name. -/
def readFiles (o : Options) : IO (List (String × Except FileFault (List UInt8))) :=
  o.mapM fun (_, value) => do
    let name := plainName value
    return (name, ← readBytes name)

/-- Runs a command and gives its status. -/
def runCommand (spec : Spec) (args : List String) : IO UInt32 := do
  match options? spec.options args with
  | none =>
    IO.eprintln (spec.name ++ ": the options are wrong")
    return 2
  | some o =>
    let contents ← readFiles o
    match spec.outcome (fun name => (contents.lookup name).getD (.error .missing)) o with
    | .written v =>
      match file? o "--output" with
      | some name => IO.FS.writeFile name (render v)
      | none => IO.print (render v)
      return 0
    | .failed message =>
      IO.eprintln message
      return failureCode.toUInt32
    | .broken e =>
      IO.eprintln e.message
      return 1

/-- Runs the command that the first argument names. -/
def main (args : List String) : IO UInt32 := do
  match args with
  | name :: rest =>
    match commands.lookup name with
    | some spec => runCommand spec rest
    | none =>
      IO.eprintln ("unknown command " ++ name)
      return 2
  | [] =>
    IO.eprintln "a command is needed: refine or match"
    return 2
