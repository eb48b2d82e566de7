import Triage.Limit
import Triage.Value

/-!
# Reading JSON

A reader for JSON texts. A number with a fraction or an exponent is a double, any other one an
integer; the names of undefined and infinite numbers are accepted. Of two members of one name the
later one counts. Nothing may precede or follow the document but blanks. Of several faults the first
one in the text is reported.
-/

namespace Triage.Json

/-- Why a text is no document. -/
inductive ReadError
  | malformed
  /-- a part of the text is beyond a limit -/
  | limit (e : LimitError)
  deriving DecidableEq, Repr

/-- A part that was read, with the text after it. -/
abbrev Parsed (α : Type) := α × List Char

/-- The blanks of the format. -/
def isSpace (c : Char) : Bool :=
  c == ' ' || c == '\t' || c == '\n' || c == '\r'

/-- Drops leading blanks. -/
def skipSpace (cs : List Char) : List Char :=
  cs.dropWhile isSpace

/-- The value of a hexadecimal digit. -/
def hexDigit? (c : Char) : Option Nat :=
  if '0' ≤ c ∧ c ≤ '9' then some (c.toNat - 48)
  else if 'a' ≤ c ∧ c ≤ 'f' then some (c.toNat - 87)
  else if 'A' ≤ c ∧ c ≤ 'F' then some (c.toNat - 55)
  else none

/-- The code unit that four hexadecimal digits write. -/
def codeUnit? (a b c d : Char) : Option Nat := do
  let w ← hexDigit? a
  let x ← hexDigit? b
  let y ← hexDigit? c
  let z ← hexDigit? d
  return ((w * 16 + x) * 16 + y) * 16 + z

/-- The character that a backslash and a letter write. -/
def escaped? (c : Char) : Option Nat :=
  match c with
  | '"' => some 0x22
  | '\\' => some 0x5C
  | '/' => some 0x2F
  | 'b' => some 0x08
  | 'f' => some 0x0C
  | 'n' => some 0x0A
  | 'r' => some 0x0D
  | 't' => some 0x09
  | _ => none

/-- Reads what follows the opening quote of a string, up to and with the closing one. `units` are
the code units read so far, the last one first. -/
def readUnits (units : List Nat) : List Char → Option (List Nat × List Char)
  | [] => none
  | '"' :: rest => some (units.reverse, rest)
  | '\\' :: 'u' :: a :: b :: c :: d :: rest =>
    match codeUnit? a b c d with
    | some n => readUnits (n :: units) rest
    | none => none
  | '\\' :: c :: rest =>
    match escaped? c with
    | some n => readUnits (n :: units) rest
    | none => none
  | c :: rest => if c.toNat < 0x20 ∨ c = '\\' then none else readUnits (c.toNat :: units) rest

/-- The characters that code units write: the two halves of a surrogate pair are one of them. -/
def joinSurrogates : List Nat → List Char
  | [] => []
  | [n] => [Text.ofUnit n]
  | high :: low :: rest =>
    if 0xD800 ≤ high ∧ high < 0xDC00 ∧ 0xDC00 ≤ low ∧ low < 0xE000 then
      Char.ofNat (0x10000 + (high - 0xD800) * 0x400 + (low - 0xDC00)) :: joinSurrogates rest
    else Text.ofUnit high :: joinSurrogates (low :: rest)

/-- Reads a string after its opening quote. -/
def readString (cs : List Char) : Except ReadError (Parsed String) :=
  match readUnits [] cs with
  | some (units, rest) => .ok (String.ofList (joinSurrogates units), rest)
  | none => .error .malformed

/-- The number that ASCII digits write. -/
def decimalValue (digits : List Char) : Nat :=
  digits.foldl (fun n c => n * 10 + (c.toNat - 48)) 0

/-- The fraction of a number: its digits, if a point and a digit come next. -/
def readFraction : List Char → List Char × List Char
  | '.' :: rest =>
    let digits := rest.takeWhile Char.isDigit
    if digits.isEmpty then ([], '.' :: rest) else (digits, rest.dropWhile Char.isDigit)
  | cs => ([], cs)

/-- The exponent of a number, if a letter and, after a sign or none, a digit come next. -/
def readExponent (cs : List Char) : Option Int × List Char :=
  match cs with
  | e :: rest =>
    if e = 'e' ∨ e = 'E' then
      let (negative, body) := match rest with
        | '-' :: r => (true, r)
        | '+' :: r => (false, r)
        | _ => (false, rest)
      let digits := body.takeWhile Char.isDigit
      if digits.isEmpty then (none, cs)
      else
        let n : Int := decimalValue digits
        (some (if negative then -n else n), body.dropWhile Char.isDigit)
    else (none, cs)
  | [] => (none, cs)

/-- An integer by its digits. -/
def integerOf (isNegative : Bool) (digits : List Char) : Except ReadError Scalar :=
  if maxIntegerDigits < digits.length then .error (.limit (.tooLongToRead digits.length))
  else
    let n : Int := decimalValue digits
    .ok (.int (if isNegative then -n else n))

/-- Reads a number without its sign. -/
def readMagnitude (isNegative : Bool) (cs : List Char) : Except ReadError (Parsed Scalar) :=
  let run := cs.takeWhile Char.isDigit
  let whole := if run.head? = some '0' then ['0'] else run
  if whole.isEmpty then .error .malformed
  else
    let (fraction, afterFraction) := readFraction (cs.drop whole.length)
    let (exponent, rest) := readExponent afterFraction
    if fraction.isEmpty ∧ exponent.isNone then
      (integerOf isNegative whole).map fun s => (s, rest)
    else
      let x := Double.ofDecimal (decimalValue (whole ++ fraction))
        (exponent.getD 0 - fraction.length)
      .ok (.real (if isNegative then x.neg else x), rest)

/-- The rest of a text after a word that it starts with. -/
def afterWord? (word : String) (cs : List Char) : Option (List Char) :=
  if word.toList.isPrefixOf cs then some (cs.drop word.length) else none

/-- The scalars that are written as words. -/
def scalarWords : List (String × Scalar) :=
  [("null", .null), ("true", .bool true), ("false", .bool false), ("NaN", .real (.nan false)),
    ("Infinity", .real (.infinite false)), ("-Infinity", .real (.infinite true))]

/-- Reads a scalar other than a string. -/
def readScalar (cs : List Char) : Except ReadError (Parsed Scalar) :=
  match scalarWords.findSome? fun (word, s) => (afterWord? word cs).map fun rest => (s, rest) with
  | some found => .ok found
  | none =>
    match cs with
    | '-' :: rest => readMagnitude true rest
    | _ => readMagnitude false cs

mutual

/-- Reads a value at the start of a text, inside which `depth` more brackets may be open at once.
Every step takes from `fuel`, and no step but the first one and the opening of a bracket leaves the
text as it was, so twice its length is enough. -/
def readValue (fuel depth : Nat) (cs : List Char) : Except ReadError (Parsed Value) :=
  match fuel with
  | 0 => .error .malformed
  | fuel + 1 =>
    match cs with
    | '"' :: rest => (readString rest).map fun (s, after) => (.text s, after)
    | '[' :: rest =>
      match depth with
      | 0 => .error (.limit .tooDeep)
      | depth + 1 =>
        match skipSpace rest with
        | ']' :: after => .ok (.list [], after)
        | body => readItems fuel depth [] body
    | '\x7b' :: rest =>
      match depth with
      | 0 => .error (.limit .tooDeep)
      | depth + 1 =>
        match skipSpace rest with
        | '\x7d' :: after => .ok (.table [], after)
        | body => readMembers fuel depth [] body
    | _ => (readScalar cs).map fun (s, after) => (.scalar s, after)

/-- Reads the items of an array up to its closing bracket; `items` are those already read, the last
one first. -/
def readItems (fuel depth : Nat) (items : List Value) (cs : List Char) :
    Except ReadError (Parsed Value) :=
  match fuel with
  | 0 => .error .malformed
  | fuel + 1 => do
    let (v, rest) ← readValue fuel depth cs
    match skipSpace rest with
    | ',' :: more => readItems fuel depth (v :: items) (skipSpace more)
    | ']' :: after => return (.list (v :: items).reverse, after)
    | _ => throw .malformed

/-- Reads the members of an object up to its closing brace; `members` are those already read, the
last one first. -/
def readMembers (fuel depth : Nat) (members : List (Scalar × Value)) (cs : List Char) :
    Except ReadError (Parsed Value) :=
  match fuel with
  | 0 => .error .malformed
  | fuel + 1 =>
    match cs with
    | '"' :: body => do
      let (name, rest) ← readString body
      match skipSpace rest with
      | ':' :: afterColon =>
        let (v, afterValue) ← readValue fuel depth (skipSpace afterColon)
        match skipSpace afterValue with
        | ',' :: more => readMembers fuel depth ((.text name, v) :: members) (skipSpace more)
        | '\x7d' :: after => return (.ofEntries ((.text name, v) :: members).reverse, after)
        | _ => throw .malformed
      | _ => throw .malformed
    | _ => .error .malformed

end

/-- Reads a document. -/
def read [Nesting] (text : String) : Except ReadError Value := do
  let cs := text.toList
  let (v, rest) ← readValue (2 * cs.length + 2) Nesting.brackets (skipSpace cs)
  if (skipSpace rest).isEmpty then return v else throw .malformed

end Triage.Json
