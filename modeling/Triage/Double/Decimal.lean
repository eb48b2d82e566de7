import Triage.Double.Basic

/-!
# Decimals of doubles

Reading a decimal to the nearest double, and the shortest decimal that reads back as a double. The
zero has the text `0.0`, and what is no number or not finite has a word.
-/

namespace Triage.Double

/-- Exponents of ten beyond which every decimal with a digit is infinite or zero. -/
def extremeExponent : Int := 400

/-- The double nearest to `digits · 10 ^ exponent`; `length` is how many digits were written. -/
def ofDecimal (digits : Nat) (exponent : Int) : Double :=
  let magnitude := (Nat.toDigits 10 digits).length + exponent
  if digits = 0 ∨ magnitude < -extremeExponent then zero
  else if extremeExponent < magnitude then infinite false
  else if 0 ≤ exponent then ofRatio (digits * Nat.pow 10 exponent.toNat) 1
  else ofRatio digits (Nat.pow 10 (-exponent).toNat)

/-- A decimal `digits · 10 ^ exponent`. -/
structure Decimal where
  digits : Nat
  exponent : Int
  deriving DecidableEq, Repr

/-- The integer nearest below `m · 2⁻¹⁰⁷⁴ · 10 ^ places`, and what is left, over a denominator. -/
def scaleDown (m : Nat) (places : Int) : Nat × Nat × Nat :=
  let num := if 0 ≤ places then m * Nat.pow 10 places.toNat else m
  let den := if 0 ≤ places then unitsPerOne else unitsPerOne * Nat.pow 10 (-places).toNat
  (num / den, num % den, den)

/-- The decimal nearest to a positive count of units among those with `places` places after the
point that read back as it, if there is one; a tie goes to the even digit. -/
def readingBack (m : Nat) (places : Int) : Option Decimal :=
  let (below, rest, den) := scaleDown m places
  let readsBack (d : Nat) := ofDecimal d (-places) == finite false m
  let low := readsBack below
  let high := readsBack (below + 1)
  if low && high then
    let lowIsNearer := 2 * rest < den || (2 * rest == den && below % 2 == 0)
    some ⟨if lowIsNearer then below else below + 1, -places⟩
  else if low then some ⟨below, -places⟩
  else if high then some ⟨below + 1, -places⟩
  else none

/-- The exponent of ten of the leading digit of a positive count of units: the largest `e` with
`10 ^ e ≤ m · 2⁻¹⁰⁷⁴`. -/
def leadingExponent (m : Nat) : Int :=
  if unitsPerOne ≤ m then
    (Nat.toDigits 10 (m / unitsPerOne)).length - 1
  else
    (Nat.toDigits 10 (m * Nat.pow 10 325 / unitsPerOne)).length - 326

/-- The shortest decimal that reads back as a positive count of units. Seventeen digits always
do. -/
def shortest (m : Nat) : Decimal :=
  let e := leadingExponent m
  let found := (List.range 17).findSome? fun (i : Nat) => readingBack m (i - e)
  found.getD ⟨0, 0⟩

/-- The digits of a decimal without the zeros at its end, and the exponent of ten in front of whose
digit the point stands. -/
def significant (d : Decimal) : List Char × Int :=
  let text := Nat.toDigits 10 d.digits
  ((text.reverse.dropWhile (· == '0')).reverse, text.length + d.exponent)

/-- Writes a positive count of units with the fewest digits that read back: positional from `0.0001`
up to below `10¹⁶`, always with a point, and otherwise with an exponent of at least two digits. -/
def unitsText (m : Nat) : String :=
  let (ds, point) := significant (shortest m)
  if -4 < point ∧ point ≤ 16 then
    if point ≤ 0 then
      "0." ++ String.ofList (List.replicate (-point).toNat '0' ++ ds)
    else
      let whole := ds.take point.toNat
      let zeros := List.replicate (point.toNat - ds.length) '0'
      let places := ds.drop point.toNat
      String.ofList (whole ++ zeros) ++ "." ++
        (if places.isEmpty then "0" else String.ofList places)
  else
    let exponent := point - 1
    let size := Nat.toDigits 10 exponent.natAbs
    let mark := if exponent < 0 then "e-" else "e+"
    let places := ds.drop 1
    String.ofList (ds.take 1) ++
      (if places.isEmpty then "" else "." ++ String.ofList places) ++ mark ++
      String.ofList (if size.length < 2 then '0' :: size else size)

/-- What stands in front of a value of a sign. -/
def signText (isNegative : Bool) : String :=
  if isNegative then "-" else ""

/-- Writes a value: a finite one with the fewest digits that read back. -/
def toText : Double → String
  | finite s m => signText s ++ if m = 0 then "0.0" else unitsText m
  | infinite s => signText s ++ "inf"
  | nan _ => "nan"

end Triage.Double
