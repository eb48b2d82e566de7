/-!
# Doubles

Numbers of the IEEE 754 format binary64. Every finite one is a whole number of units of `2⁻¹⁰⁷⁴`, so
it is kept as a sign and that count; each operation takes the exact result, as a quotient of natural
numbers, and rounds it once to the nearest number of the format, a tie to the one with an even
significand. What lies beyond the largest number becomes infinity, and an operation without a result
gives a value that is no number. Comparison is by `rank?`, the place among all numbers, which such a
value does not have.
-/

namespace Triage

/-- A value of the format. Finite ones are a sign with a count of units of `2⁻¹⁰⁷⁴`, so there are
two zeros; what is no number has a sign too. -/
inductive Double
  | finite (isNegative : Bool) (units : Nat)
  | infinite (isNegative : Bool)
  /-- no number -/
  | nan (isNegative : Bool)
  deriving DecidableEq, Repr

/-- The place of a number among all numbers, integers and doubles: the infinities lie in tiers of
their own, below and above the others. -/
structure Rank where
  tier : Int
  units : Int
  deriving DecidableEq, Repr

namespace Rank

/-- Whether a place is not after another one. -/
def le (a b : Rank) : Bool :=
  a.tier < b.tier || (a.tier = b.tier && a.units ≤ b.units)

/-- Whether a place is before another one. -/
def lt (a b : Rank) : Bool :=
  a.tier < b.tier || (a.tier = b.tier && a.units < b.units)

/-- Whether two values have places, and these are in a relation. -/
def both (r : Rank → Rank → Bool) (a b : Option Rank) : Bool :=
  match a, b with
  | some x, some y => r x y
  | _, _ => false

end Rank

namespace Double

/-- The bits after the point of the unit. -/
def pointBits : Nat := 1074

/-- The count of units in one. -/
def unitsPerOne : Nat := Nat.pow 2 pointBits

/-- The least count of units that is too large for a finite number. -/
def infiniteUnits : Nat := Nat.pow 2 2098

/-- The positive zero. -/
def zero : Double := finite false 0

instance : Inhabited Double := ⟨zero⟩

/-- The result of an operation that has none. -/
def undefined : Double := nan true

/-! ### Rounding -/

/-- The integer nearest to a quotient, a tie going to the even one. -/
def roundQuotient (num den : Nat) : Nat :=
  let q := num / den
  let twice := 2 * (num % den)
  if twice < den then q
  else if den < twice then q + 1
  else if q % 2 = 0 then q else q + 1

/-- The count of units nearest to a quotient, if the format had no largest number: a multiple of the
power of two that leaves a significand of 53 bits. -/
def roundUnits (num den : Nat) : Nat :=
  let spacing := Nat.pow 2 ((num / den).log2 - 52)
  roundQuotient num (den * spacing) * spacing

/-- The number of a sign that is nearest to a quotient of units. -/
def ofQuotient (isNegative : Bool) (num den : Nat) : Double :=
  let units := roundUnits num den
  if units < infiniteUnits then finite isNegative units else infinite isNegative

/-- The number nearest to an integer. -/
def ofInt (n : Int) : Double :=
  ofQuotient (n < 0) (n.natAbs * unitsPerOne) 1

/-- The number nearest to an integer, unless that is infinity. -/
def ofInt? (n : Int) : Option Double :=
  match ofInt n with
  | infinite _ => none
  | x => some x

/-- The number nearest to the quotient of two natural numbers. -/
def ofRatio (num den : Nat) : Double :=
  ofQuotient false (num * unitsPerOne) den

instance : OfNat Double n := ⟨ofInt n⟩

/-! ### Operations -/

/-- A count of units with its sign. -/
def signedUnits (isNegative : Bool) (units : Nat) : Int :=
  if isNegative then -(units : Int) else units

/-- The sum of two finite numbers. A sum of zero is negative only if both terms are. -/
def addFinite (s : Bool) (a : Nat) (t : Bool) (b : Nat) : Double :=
  let sum := signedUnits s a + signedUnits t b
  if sum = 0 then finite (s && t) 0 else ofQuotient (sum < 0) sum.natAbs 1

/-- The number with the other sign. -/
def neg : Double → Double
  | finite s a => finite (!s) a
  | infinite s => infinite (!s)
  | nan s => nan (!s)

/-- The sum of two values. What is no number stays what it is. -/
def add : Double → Double → Double
  | nan s, _ => nan s
  | _, nan s => nan s
  | infinite s, infinite t => if s = t then infinite s else undefined
  | infinite s, finite _ _ => infinite s
  | finite _ _, infinite t => infinite t
  | finite s a, finite t b => addFinite s a t b

/-- The difference of two values. -/
def sub (x : Double) : Double → Double
  | nan s =>
    match x with
    | nan t => nan t
    | _ => nan s
  | y => x.add y.neg

/-- The product of a number and infinity; zero has none. -/
def scaleInfinity (isNegative : Bool) (units : Nat) : Double :=
  if units = 0 then undefined else infinite isNegative

/-- The product of two values. What is no number stays what it is. -/
def mul : Double → Double → Double
  | nan s, _ => nan s
  | _, nan s => nan s
  | infinite s, infinite t => infinite (s != t)
  | infinite s, finite t b => scaleInfinity (s != t) b
  | finite s a, infinite t => scaleInfinity (s != t) a
  | finite s a, finite t b => ofQuotient (s != t) (a * b) unitsPerOne

instance : Add Double := ⟨add⟩

instance : Sub Double := ⟨sub⟩

instance : Mul Double := ⟨mul⟩

/-! ### Order -/

/-- The place of a value among all numbers, if it is one. -/
def rank? : Double → Option Rank
  | finite s a => some ⟨0, signedUnits s a⟩
  | infinite s => some ⟨if s then -1 else 1, 0⟩
  | nan _ => none

instance : LE Double := ⟨fun x y => Rank.both Rank.le x.rank? y.rank? = true⟩

instance : LT Double := ⟨fun x y => Rank.both Rank.lt x.rank? y.rank? = true⟩

instance (x y : Double) : Decidable (x ≤ y) :=
  inferInstanceAs (Decidable (Rank.both Rank.le x.rank? y.rank? = true))

instance (x y : Double) : Decidable (x < y) :=
  inferInstanceAs (Decidable (Rank.both Rank.lt x.rank? y.rank? = true))

/-- Whether the value is one of the zeros. -/
def isZero : Double → Bool
  | finite _ a => a = 0
  | _ => false

/-- The integer that a whole number is. -/
def toInt? : Double → Option Int
  | finite s a => if a % unitsPerOne = 0 then some (signedUnits s (a / unitsPerOne)) else none
  | _ => none

/-! ### Bits -/

/-- The value of the bit of the sign. -/
def signBit : Nat := Nat.pow 2 63

/-- The value of the leading bit of a significand, which is not stored. -/
def leadingBit : Nat := Nat.pow 2 52

/-- The largest exponent, which infinities have and what is no number. -/
def specialExponent : Nat := 2047

/-- The value of the bit of a sign. -/
def bitOfSign (isNegative : Bool) : Nat :=
  if isNegative then signBit else 0

/-- The 64 bits of the format: sign, biased exponent, significand without its leading one. -/
def toBits : Double → Nat
  | finite s a =>
    let shift := a.log2 - 52
    bitOfSign s + if a < leadingBit then a
      else (shift + 1) * leadingBit + (a / Nat.pow 2 shift - leadingBit)
  | infinite s => bitOfSign s + specialExponent * leadingBit
  | nan s => bitOfSign s + specialExponent * leadingBit + leadingBit / 2

end Double

end Triage
