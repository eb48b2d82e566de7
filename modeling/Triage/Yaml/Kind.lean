import Triage.Json.Reader
import Triage.Text.Blank
import Triage.Yaml.Timestamp

/-!
# Kinds

The types that tags name, and the kind that a plain scalar without a tag has by its looks: nothing,
a truth value, an integer in one of five notations, a number with a point, a timestamp, one of two
signs, or else a text.
-/

namespace Triage.Yaml

/-- The types of the standard. -/
inductive Kind
  | null
  | bool
  | int
  | float
  | text
  | binary
  | timestamp
  /-- the sign that names tables to take over -/
  | merge
  /-- the sign that names the value of a table -/
  | value
  | list
  | table
  | set
  /-- a list of tables with one entry each -/
  | pairs
  | unknown
  deriving DecidableEq, Repr

/-- The names of the types. -/
def kindNames : List (String × Kind) :=
  [("null", .null), ("bool", .bool), ("int", .int), ("float", .float), ("str", .text),
    ("binary", .binary), ("timestamp", .timestamp), ("merge", .merge), ("value", .value),
    ("seq", .list), ("map", .table), ("set", .set), ("omap", .pairs), ("pairs", .pairs)]

/-- What stands in front of the names of types in full tags. -/
def standardNamespace : String := "tag:yaml.org,2002:"

/-- The type that a full tag names. -/
def Kind.ofTag (tag : String) : Kind :=
  let cs := tag.toList
  if standardNamespace.toList.isPrefixOf cs then
    (kindNames.lookup (String.ofList (cs.drop standardNamespace.length))).getD .unknown
  else .unknown

/-- Whether a kind is one of scalars that have a value. -/
def Kind.isScalar : Kind → Bool
  | null | bool | int | float | text | binary | timestamp => true
  | _ => false

/-! ### Looks -/

/-- The words for nothing. -/
def nullWords : List String := ["", "~", "null", "Null", "NULL"]

/-- The words for true. -/
def trueWords : List String :=
  ["yes", "Yes", "YES", "true", "True", "TRUE", "on", "On", "ON"]

/-- The words for false. -/
def falseWords : List String :=
  ["no", "No", "NO", "false", "False", "FALSE", "off", "Off", "OFF"]

/-- Whether a text is made of digits of a class and underscores, and not empty. -/
def isDigits (p : Char → Bool) (cs : List Char) : Bool :=
  !cs.isEmpty && cs.all fun c => p c || c = '_'

/-- Whether a text is a number from 0 to 59 with one digit or two. -/
def isSixtieth (cs : List Char) : Bool :=
  match cs with
  | [d] => d.isDigit
  | [t, d] => '0' ≤ t && t ≤ '5' && d.isDigit
  | _ => false

/-- Whether a text is decimal digits with underscores after the first of them. -/
def isGrouped (cs : List Char) : Bool :=
  cs.head?.any Char.isDigit && isDigits Char.isDigit cs

/-- The parts of a text between colons. -/
def colonParts (cs : List Char) : List (List Char) :=
  Text.splitAt (· = ':') cs

/-- Whether a text is a whole number and at least one number of sixtieths, between colons. -/
def isSixtieths (cs : List Char) : Bool :=
  match colonParts cs with
  | whole :: next :: more => isGrouped whole && (next :: more).all isSixtieth
  | _ => false

/-- Whether a text looks like an integer without its sign. -/
def isIntegerBody (cs : List Char) : Bool :=
  let isBit (c : Char) : Bool := c = '0' || c = '1'
  let isOctal (c : Char) : Bool := '0' ≤ c && c ≤ '7'
  let isHex (c : Char) : Bool := (Json.hexDigit? c).isSome
  match cs with
  | ['0'] => true
  | '0' :: 'b' :: rest => isDigits isBit rest
  | '0' :: 'x' :: rest => isDigits isHex rest
  | '0' :: rest => isDigits isOctal rest
  | _ => isGrouped cs || isSixtieths cs

/-- Whether a text is an exponent with its sign, or empty. -/
def isExponent (cs : List Char) : Bool :=
  match cs with
  | [] => true
  | e :: sign :: digits =>
    (e = 'e' || e = 'E') && (sign = '+' || sign = '-') && !digits.isEmpty && digits.all Char.isDigit
  | _ => false

/-- Whether a character can stand behind the point of a number. -/
def isPlace (c : Char) : Bool :=
  c.isDigit || c = '_'

/-- Whether a text looks like a number with a point, given what stands before the point without its
sign, and what stands behind it. -/
def isPointed (hasSign : Bool) (whole places : List Char) : Bool :=
  let exponent := places.dropWhile isPlace
  if whole.isEmpty then
    !hasSign && isGrouped (places.takeWhile isPlace) && isExponent exponent
  else (isGrouped whole && isExponent exponent) || (isSixtieths whole && exponent.isEmpty)

/-- Whether a text looks like a number with a point, an infinite one, or what is no number. -/
def isFloatText (cs : List Char) : Bool :=
  let (_, body) := Text.splitSign cs
  let hasSign := body.length < cs.length
  if String.ofList body ∈ [".inf", ".Inf", ".INF"] then true
  else if String.ofList cs ∈ [".nan", ".NaN", ".NAN"] then true
  else match body.dropWhile (· ≠ '.') with
    | '.' :: places => isPointed hasSign (body.takeWhile (· ≠ '.')) places
    | _ => false

/-- A text without one line feed at its end. -/
def dropFinalFeed (cs : List Char) : List Char :=
  if cs.getLast? = some '\n' then cs.dropLast else cs

/-- The signs that aliases, names and tags begin with, which alone have no kind. -/
def loneSigns : List String := ["!", "&", "*"]

/-- The kind of a plain scalar by its looks. A line feed at the end does not count, unless it is all
that there is. -/
def Kind.ofLooks (text : String) : Kind :=
  let cs := dropFinalFeed text.toList
  let body := String.ofList cs
  if cs.isEmpty then if text.isEmpty then .null else .text
  else if body ∈ trueWords ∨ body ∈ falseWords then .bool
  else if isFloatText cs then .float
  else if isIntegerBody (Text.splitSign cs).2 then .int
  else if body = "<<" then .merge
  else if body ∈ nullWords then .null
  else if Timestamp.isPlain cs then .timestamp
  else if body = "=" then .value
  else if body ∈ loneSigns then .unknown
  else .text

end Triage.Yaml
