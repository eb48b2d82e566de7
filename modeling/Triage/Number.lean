import Triage.Double.Basic

/-!
# Numbers

Weights and scores: an integer, which is exact, or a double. Integers stay integers as long as they
meet only integers; an operation with a double on either side is one of doubles, and has no result
if the integer on the other side is beyond all of them. Comparison is by exact value.
-/

namespace Triage

/-- An integer or a double. -/
inductive Number
  | int (n : Int)
  | real (x : Double)
  deriving DecidableEq, Repr, Inhabited

namespace Number

/-- The nearest double, unless an integer is beyond all of them. -/
def toDouble? : Number → Option Double
  | int n => Double.ofInt? n
  | real x => some x

/-- An operation on integers as long as both sides are, and on doubles otherwise. -/
def combine? (onInts : Int → Int → Int) (onDoubles : Double → Double → Double) :
    Number → Number → Option Number
  | int m, int n => some (int (onInts m n))
  | a, b => do
    let x ← a.toDouble?
    let y ← b.toDouble?
    return real (onDoubles x y)

/-- The sum of two numbers. -/
def add? (a b : Number) : Option Number := combine? (· + ·) (· + ·) a b

/-- The difference of two numbers. -/
def sub? (a b : Number) : Option Number := combine? (· - ·) (· - ·) a b

/-- The product of two numbers. -/
def mul? (a b : Number) : Option Number := combine? (· * ·) (· * ·) a b

/-- The number with the other sign. -/
def neg : Number → Number
  | int n => int (-n)
  | real x => real x.neg

/-- The place among all numbers; what is no number has none. -/
def rank? : Number → Option Rank
  | int n => some ⟨0, n * Double.unitsPerOne⟩
  | real x => x.rank?

instance : OfNat Number n := ⟨int n⟩

instance : LE Number := ⟨fun a b => Rank.both Rank.le a.rank? b.rank? = true⟩

instance : LT Number := ⟨fun a b => Rank.both Rank.lt a.rank? b.rank? = true⟩

instance (a b : Number) : Decidable (a ≤ b) :=
  inferInstanceAs (Decidable (Rank.both Rank.le a.rank? b.rank? = true))

instance (a b : Number) : Decidable (a < b) :=
  inferInstanceAs (Decidable (Rank.both Rank.lt a.rank? b.rank? = true))

end Number

end Triage
