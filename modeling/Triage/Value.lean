import Triage.Double.Decimal
import Triage.Number
import Triage.Text.Quoted

/-!
# Values

Documents as they were read, before anyone checked them: scalars, lists and tables. A table keeps
its entries in order and has every key once. `get?` looks a field up, `isVoid` tells a value that
says nothing, and `display` writes a value where a text is wanted.
-/

namespace Triage

/-- A value without parts. -/
inductive Scalar
  /-- no value -/
  | null
  | bool (b : Bool)
  | int (n : Int)
  | real (x : Double)
  | text (s : String)
  /-- a value of another kind, by the text that is shown for it -/
  | other (literal : String)
  deriving DecidableEq, Repr, Inhabited

/-- A document. -/
inductive Value
  | scalar (s : Scalar)
  | list (items : List Value)
  | table (entries : List (Scalar × Value))
  deriving Repr, Inhabited

namespace Scalar

/-- A scalar as it is written inside lists and tables. -/
def literal : Scalar → String
  | null => "None"
  | bool true => "True"
  | bool false => "False"
  | int n => toString n
  | real x => x.toText
  | text s => Text.quoted s
  | other s => s

/-- A scalar as a text: a text is itself. An integer of any length is written; the documents whose
values are shown were read from JSON texts, and have none that is too long to be written. -/
def display : Scalar → String
  | text s => s
  | s => s.literal

/-- The number that a scalar is, truth values counting as zero and one. -/
def numeric? : Scalar → Option Number
  | bool b => some (.int (if b then 1 else 0))
  | int n => some (.int n)
  | real x => some (.real x)
  | _ => none

/-- Whether two scalars are one key of a table: numbers of one value are, whatever their kind. -/
def sameKey (a b : Scalar) : Bool :=
  match a.numeric?, b.numeric? with
  | some x, some y => if x.rank?.isSome then x.rank? = y.rank? else a = b
  | none, none => a = b
  | _, _ => false

/-- Whether a scalar says nothing: no value, false, zero, or the empty text. -/
def isVoid : Scalar → Bool
  | null => true
  | bool b => !b
  | int n => n = 0
  | real x => x.isZero
  | text s => s.isEmpty
  | _ => false

end Scalar

namespace Value

/-- The value that stands for no value. -/
def null : Value := scalar .null

/-- A text as a value. -/
def text (s : String) : Value := scalar (.text s)

/-- An integer as a value. -/
def int (n : Int) : Value := scalar (.int n)

/-- A natural number as a value. -/
def nat (n : Nat) : Value := int n

/-- A truth value as a value. -/
def bool (b : Bool) : Value := scalar (.bool b)

/-- A double as a value. -/
def real (x : Double) : Value := scalar (.real x)

/-- A text or no value. -/
def optText (s : Option String) : Value := (s.map text).getD null

/-- A count or no value. -/
def optNat (n : Option Nat) : Value := (n.map nat).getD null

/-- A table whose keys are texts. -/
def record (fields : List (String × Value)) : Value :=
  table (fields.map fun (name, v) => (.text name, v))

/-- The value of a key in the entries of a table. -/
def findEntry (k : Scalar) : List (Scalar × Value) → Option Value
  | [] => none
  | (a, v) :: rest => if a.sameKey k then some v else findEntry k rest

/-- Gives a key of a table a value, in its old place if it has one. -/
def putEntry (k : Scalar) (v : Value) : List (Scalar × Value) → List (Scalar × Value)
  | [] => [(k, v)]
  | (a, w) :: rest => if a.sameKey k then (a, v) :: rest else (a, w) :: putEntry k v rest

/-- The table of entries in order; of two entries with one key the later one gives the value. -/
def ofEntries (entries : List (Scalar × Value)) : Value :=
  table (entries.foldl (fun t (k, v) => putEntry k v t) [])

/-- The value of a field, which may stand for no value. -/
def field? (v : Value) (name : String) : Option Value :=
  match v with
  | table entries => findEntry (.text name) entries
  | _ => none

/-- Whether a value stands for no value. -/
def isNull : Value → Bool
  | scalar .null => true
  | _ => false

/-- The value of a field that is there and has a value. -/
def get? (v : Value) (name : String) : Option Value :=
  (v.field? name).filter (!·.isNull)

/-- The value of the first of several fields that has one. -/
def getFirst? (v : Value) (names : List String) : Option Value :=
  names.findSome? v.get?

/-- Whether a value says nothing: a void scalar, the empty list, the empty table. -/
def isVoid : Value → Bool
  | scalar s => s.isVoid
  | list items => items.isEmpty
  | table entries => entries.isEmpty

/-- Whether a value is a table. -/
def isTable : Value → Bool
  | table _ => true
  | _ => false

/-- The text that a value is. -/
def text? : Value → Option String
  | scalar (.text s) => some s
  | _ => none

/-- The integer that a value is. -/
def int? : Value → Option Int
  | scalar (.int n) => some n
  | _ => none

/-- The number that a value is; a truth value is none. -/
def number? : Value → Option Number
  | scalar (.int n) => some (.int n)
  | scalar (.real x) => some (.real x)
  | _ => none

/-- What a walk through a value meets: items, keys, or characters; other values cannot be walked
through. -/
def elements? : Value → Option (List Value)
  | list items => some items
  | table entries => some (entries.map fun e => scalar e.1)
  | scalar (.text s) => some (s.toList.map fun c => text (String.singleton c))
  | scalar _ => none

/-- A value only if it says something. -/
def unlessVoid (v : Value) : Option Value :=
  if v.isVoid then none else some v

mutual

/-- A value as it is written inside lists and tables. -/
def literal : Value → String
  | scalar s => s.literal
  | list items => "[" ++ ", ".intercalate (literalItems items) ++ "]"
  | table entries => "\x7b" ++ ", ".intercalate (literalEntries entries) ++ "\x7d"

/-- The items of a list as they are written in it. -/
def literalItems : List Value → List String
  | [] => []
  | v :: rest => v.literal :: literalItems rest

/-- The entries of a table as they are written in it. -/
def literalEntries : List (Scalar × Value) → List String
  | [] => []
  | (k, v) :: rest => (k.literal ++ ": " ++ v.literal) :: literalEntries rest

end

/-- A value as a text: a text is itself. -/
def display : Value → String
  | scalar s => s.display
  | v => v.literal

/-- A field as a text, empty if the field says nothing. -/
def displayField (v : Value) (name : String) : String :=
  (((v.get? name).bind unlessVoid).map display).getD ""

end Value

end Triage
