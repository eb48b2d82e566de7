/-!
# Limits

What is too large, too long or too deep to be dealt with, though nothing else is wrong with it.
`LimitError` names the limit that a value is beyond. How deep is too deep is left open (`Nesting`).
-/

namespace Triage

/-- The most digits of an integer that is read or written in base ten. -/
def maxIntegerDigits : Nat := 4300

/-- How deeply what is read from a text may be nested. That depends on the stack of the program that
reads it. -/
class Nesting where
  /-- the most brackets of a JSON text that may be open at once -/
  brackets : Nat
  /-- the most nodes of a YAML text that may be inside one another -/
  nodes : Nat
  /-- what is written can be read again -/
  four_le_brackets : 4 ≤ brackets

/-- The limits of a stack of the usual size. -/
instance : Nesting := ⟨990, 487, by decide⟩

/-- The limit that a value is beyond. -/
inductive LimitError
  /-- an integer is beyond all doubles -/
  | beyondDoubles
  /-- an integer that is read has too many digits -/
  | tooLongToRead (digits : Nat)
  /-- an integer that is written has too many digits -/
  | tooLongToWrite
  /-- a number is beyond all codes of characters that could be asked for -/
  | beyondCodes
  /-- half of a surrogate pair has no bytes -/
  | unencodable
  /-- values are nested too deeply -/
  | tooDeep
  deriving DecidableEq, Repr

/-- What is said of an integer with too many digits. -/
def digitsText (found : String) : String :=
  "Exceeds the limit (" ++ toString maxIntegerDigits ++ " digits) for integer string conversion" ++
    found ++ "; use sys.set_int_max_str_digits() to increase the limit"

/-- The text of an error. -/
def LimitError.message : LimitError → String
  | beyondDoubles => "an integer is beyond all doubles"
  | tooLongToRead digits => digitsText (": value has " ++ toString digits ++ " digits")
  | tooLongToWrite => digitsText ""
  | beyondCodes => "a number is beyond all codes"
  | unencodable => "a text has half of a surrogate pair"
  | tooDeep => "values are nested too deeply"

/-- Whether an integer is short enough to be written in base ten. -/
def isWritable (n : Int) : Bool :=
  n.natAbs < Nat.pow 10 maxIntegerDigits

end Triage
