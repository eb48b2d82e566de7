import Triage.Text.Numeral

/-!
# Faults

Why a YAML text has no value: it is malformed, or a scalar in it does not mean what its tag says.
-/

namespace Triage.Yaml

/-- Why numbers are no date or no time of a day. -/
inductive DateError
  | year (n : Nat)
  | month
  | day
  | hour
  | minute
  | second
  /-- a distance from universal time of a day or more -/
  | offset (shown : String)
  deriving DecidableEq, Repr

/-- The text of an error. -/
def DateError.message : DateError → String
  | year n => "year " ++ toString n ++ " is out of range"
  | month => "month must be in 1..12"
  | day => "day is out of range for month"
  | hour => "hour must be in 0..23"
  | minute => "minute must be in 0..59"
  | second => "second must be in 0..59"
  | offset shown =>
    "offset must be a timedelta strictly between -timedelta(hours=24) and " ++
      "timedelta(hours=24), not " ++ shown ++ "."

/-- Why a text has no value. -/
inductive Fault
  | malformed
  /-- a part of the text is beyond a limit -/
  | limit (e : LimitError)
  | numeral (e : Text.NumeralError)
  /-- a number without characters -/
  | emptyNumber
  /-- a truth value that is no word for one -/
  | unknownTruth
  | notTime
  /-- a time that is a table -/
  | timeOfTable
  | date (e : DateError)
  /-- an escape with a number that no character has -/
  | noCharacter
  deriving DecidableEq, Repr

/-- The text of a fault. -/
def Fault.message : Fault → String
  | malformed => "the text is malformed"
  | limit e => e.message
  | numeral e => e.message
  | emptyNumber => "a number is empty"
  | unknownTruth => "a truth value is unknown"
  | notTime => "a time is malformed"
  | timeOfTable => "a time is a table"
  | date e => e.message
  | noCharacter => "chr() arg not in range(0x110000)"

/-- A part of a text, which is malformed without it. -/
def orMalformed (part : Option α) : Except Fault α :=
  match part with
  | some a => .ok a
  | none => .error .malformed

end Triage.Yaml
