import Triage.Text.Base64
import Triage.Text.Case
import Triage.Value
import Triage.Yaml.Kind

/-!
# Scalars

The values of scalars: what a text means under a kind, which it may have by its looks or by a tag. A
text need not look like the kind that its tag gives it.
-/

namespace Triage.Yaml

/-- Drops the underscores of a number. -/
def plainDigits (cs : List Char) : List Char :=
  cs.filter (· ≠ '_')

/-- The base of sixtieths. -/
def sixty : Nat := 60

/-- Splits the sign off a number, of which something has to be there. -/
def signed (cs : List Char) : Except Fault (Bool × List Char) :=
  if cs.isEmpty then .error .emptyNumber else .ok (Text.splitSign cs)

/-! ### Integers -/

/-- Reads an integer in a base. -/
def integerIn (base : Nat) (cs : List Char) : Except Fault Int :=
  (Text.readInteger base cs).mapError .numeral

/-- Adds up parts in sixtieths, the last part first. -/
def sumSixtieths (parts : List Int) : Int :=
  (parts.reverse.foldl (fun (sum, base) part => (sum + part * base, base * sixty))
    ((0 : Int), (1 : Int))).1

/-- The magnitude of an integer without underscores: binary, hexadecimal or octal by its first
characters, in sixtieths, or decimal. -/
def integerMagnitude (cs : List Char) : Except Fault Int :=
  match cs with
  | [] => .error .emptyNumber
  | '0' :: 'b' :: rest => integerIn 2 rest
  | '0' :: 'x' :: rest => integerIn 16 rest
  | '0' :: _ => integerIn 8 cs
  | _ =>
    if cs.contains ':' then ((colonParts cs).mapM (integerIn 10)).map sumSixtieths
    else integerIn 10 cs

/-- The integer that a text means. -/
def integerOf (cs : List Char) : Except Fault Int := do
  let (isNegative, magnitude) ← signed (plainDigits cs)
  let n ← integerMagnitude magnitude
  return if isNegative then -n else n

/-! ### Doubles -/

/-- Reads a decimal. -/
def decimal (cs : List Char) : Except Fault Double :=
  (Text.readDecimal cs).mapError .numeral

/-- Adds up parts in sixtieths from the last part on, in doubles. The base is an integer, which may
grow beyond them. -/
def sumDecimals (sum : Double) (base : Int) : List Double → Except Fault Double
  | [] => .ok sum
  | part :: earlier =>
    match Double.ofInt? base with
    | some b => sumDecimals (sum + part * b) (base * sixty) earlier
    | none => .error (.limit .beyondDoubles)

/-- The magnitude of a number without underscores in lower case. -/
def decimalMagnitude (cs : List Char) : Except Fault Double :=
  if cs = ".inf".toList then .ok (.infinite false)
  else if cs.contains ':' then do
    let parts ← (colonParts cs).mapM decimal
    sumDecimals 0 1 parts.reverse
  else decimal cs

/-- The double that a text means. -/
def doubleOf (cs : List Char) : Except Fault Double := do
  let (isNegative, magnitude) ← signed (Text.fullLower (plainDigits cs))
  if magnitude = ".nan".toList then return .undefined
  else
    let x ← decimalMagnitude magnitude
    return Double.ofInt (if isNegative then -1 else 1) * x

/-! ### Other kinds -/

/-- The truth value that a text means, in any case. -/
def truthOf (cs : List Char) : Except Fault Bool :=
  let word := String.ofList (Text.lower cs)
  if word ∈ trueWords then .ok true
  else if word ∈ falseWords then .ok false
  else .error .unknownTruth

/-- The bytes that a text means, as they are shown. -/
def bytesOf (cs : List Char) : Except Fault String :=
  (orMalformed (Text.decodeBase64? cs)).map Text.quotedBytes

/-- The timestamp that a text means, as it is shown. -/
def timestampOf (cs : List Char) : Except Fault String :=
  match Timestamp.parse? cs with
  | some t => t.literal
  | none => .error .notTime

/-- The scalar that a text means under a kind. -/
def scalarOf (kind : Kind) (text : String) : Except Fault Triage.Scalar :=
  let cs := text.toList
  match kind with
  | .null => .ok .null
  | .text => .ok (.text text)
  | .bool => (truthOf cs).map .bool
  | .int => (integerOf cs).map .int
  | .float => (doubleOf cs).map .real
  | .binary => (bytesOf cs).map .other
  | .timestamp => (timestampOf cs).map .other
  | _ => .error .malformed

end Triage.Yaml
