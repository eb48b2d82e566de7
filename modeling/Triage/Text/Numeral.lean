import Triage.Double.Decimal
import Triage.Limit
import Triage.Positional
import Triage.Text.Case
import Triage.Text.Quoted

/-!
# Numerals

Texts that are meant as numbers: integers in a base, and decimals with or without a point and an
exponent. Blanks may stand around a numeral, digits are those of any script, and single underscores
may stand between the digits of an integer. `NumeralError` tells why a text is none.
-/

namespace Triage.Text

/-- Why a text is no numeral. -/
inductive NumeralError
  | notInteger (base : Nat) (text : String)
  | notDecimal (text : String)
  | tooLong (digits : Nat)
  deriving DecidableEq, Repr

/-- The most characters of a quoted text that a message shows. -/
def maxShown : Nat := 200

/-- The text of an error. -/
def NumeralError.message : NumeralError → String
  | notInteger base text =>
    "invalid literal for int() with base " ++ toString base ++ ": " ++
      String.ofList ((quoted text).toList.take maxShown)
  | notDecimal text => "could not convert string to float: " ++ quoted text
  | tooLong digits => (LimitError.tooLongToRead digits).message

/-- Whether a character may stand around a numeral: a blank that is not a separator of ASCII. -/
def isMargin (c : Char) : Bool :=
  isBlank c && !(0x1C ≤ c.toNat && c.toNat ≤ 0x1F)

/-- Splits the sign off a numeral; `true` is a minus. -/
def splitSign (cs : List Char) : Bool × List Char :=
  match cs with
  | '-' :: rest => (true, rest)
  | '+' :: rest => (false, rest)
  | _ => (false, cs)

/-! ### Integers -/

/-- The value of a digit in a base: a decimal digit of any script, or a letter of ASCII. -/
def digitIn? (base : Nat) (c : Char) : Option Nat :=
  let value :=
    if 'a' ≤ c ∧ c ≤ 'z' then some (c.toNat - 0x61 + 10)
    else if 'A' ≤ c ∧ c ≤ 'Z' then some (c.toNat - 0x41 + 10)
    else digitValue? c
  value.filter (· < base)

/-- The values of digits in a base that may have single underscores between them. -/
def groupedDigits? (base : Nat) : List Char → Option (List Nat)
  | [] => none
  | [c] => (digitIn? base c).map ([·])
  | c :: '_' :: rest => do
    let d ← digitIn? base c
    let ds ← groupedDigits? base rest
    return d :: ds
  | c :: rest => do
    let d ← digitIn? base c
    let ds ← groupedDigits? base rest
    return d :: ds

/-- Drops the mark of a base, with the underscore that may follow it. -/
def dropBaseMark (base : Nat) (cs : List Char) : List Char :=
  let rest := match cs with
    | '0' :: c :: rest =>
      if (base = 2 ∧ (c = 'b' ∨ c = 'B')) ∨ (base = 8 ∧ (c = 'o' ∨ c = 'O')) ∨
          (base = 16 ∧ (c = 'x' ∨ c = 'X')) then some rest
      else none
    | _ => none
  match rest with
  | some ('_' :: more) => more
  | some more => more
  | none => cs

/-- Reads an integer in a base. Base ten has a limit to the count of digits. -/
def readInteger (base : Nat) (cs : List Char) : Except NumeralError Int :=
  let (isNegative, magnitude) := splitSign (cs.dropWhile isMargin)
  let body := dropBaseMark base magnitude
  let isDigit (c : Char) : Bool := c = '_' || (digitIn? base c).isSome
  let refusal := NumeralError.notInteger base (String.ofList cs)
  match groupedDigits? base (body.takeWhile isDigit) with
  | none => .error refusal
  | some ds =>
    if base = 10 ∧ maxIntegerDigits < ds.length then .error (.tooLong ds.length)
    else if (body.dropWhile isDigit).all isMargin then
      let n : Int := ofDigits base ds
      .ok (if isNegative then -n else n)
    else .error refusal

/-! ### Decimals -/

/-- The words for infinity and for what is no number, in lower case. -/
def specialWords : List (String × Double) :=
  [("inf", .infinite false), ("infinity", .infinite false), ("nan", .nan false)]

/-- Digits at the start of a text, and what follows them. -/
def spanDigits (cs : List Char) : List Nat × List Char :=
  ((cs.takeWhile isDecimalDigit).filterMap digitValue?, cs.dropWhile isDecimalDigit)

/-- The exponent behind the digits of a decimal: a letter, a sign or none, and digits. It may be
missing. -/
def decimalExponent? (cs : List Char) : Option Int :=
  match cs with
  | [] => some 0
  | e :: rest =>
    let (isNegative, body) := splitSign rest
    let (digits, more) := spanDigits body
    if (e = 'e' ∨ e = 'E') ∧ !digits.isEmpty ∧ more.isEmpty then
      let n : Int := ofDigits 10 digits
      some (if isNegative then -n else n)
    else none

/-- Reads a decimal without its sign: digits with a point among them or around them, or none, and an
exponent. -/
def magnitude? (cs : List Char) : Option Double :=
  match specialWords.lookup (String.ofList (lower cs)) with
  | some x => some x
  | none =>
    let (whole, afterWhole) := spanDigits cs
    let (fraction, rest) := match afterWhole with
      | '.' :: more => spanDigits more
      | _ => ([], afterWhole)
    if whole.isEmpty ∧ fraction.isEmpty then none
    else (decimalExponent? rest).map fun exponent =>
      .ofDecimal (ofDigits 10 (whole ++ fraction)) (exponent - fraction.length)

/-- Reads a decimal. -/
def readDecimal (cs : List Char) : Except NumeralError Double :=
  let (isNegative, body) := splitSign (dropTrailing isMargin (cs.dropWhile isMargin))
  match magnitude? body with
  | some x => .ok (if isNegative then x.neg else x)
  | none => .error (.notDecimal (String.ofList cs))

end Triage.Text
