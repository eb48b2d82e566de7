import Triage.Value

/-!
# Printing JSON

The written form of documents, in ASCII alone: on one line, or with every item and member on a line
of its own, indented by two spaces for each level.
-/

namespace Triage.Json

/-- A code unit as an escape. -/
def unitEscape (n : Nat) : List Char :=
  '\\' :: 'u' :: Text.hexDigits 4 n

/-- A character by its number: as one code unit, or as a surrogate pair. -/
def numberEscape (n : Nat) : List Char :=
  if n < 0x10000 then unitEscape n
  else unitEscape (0xD800 + (n - 0x10000) / 0x400) ++ unitEscape (0xDC00 + (n - 0x10000) % 0x400)

/-- A character inside a string. -/
def escape (c : Char) : List Char :=
  match c with
  | '"' => ['\\', '"']
  | '\\' => ['\\', '\\']
  | '\n' => ['\\', 'n']
  | '\r' => ['\\', 'r']
  | '\t' => ['\\', 't']
  | '\x08' => ['\\', 'b']
  | '\x0c' => ['\\', 'f']
  | c =>
    if 0x20 ≤ c.toNat ∧ c.toNat < 0x7F then [c]
    else match Text.half? c with
      | some unit => unitEscape unit
      | none => numberEscape c.toNat

/-- Whether two characters stand in for halves that would be read as one pair. -/
def isPair (a b : Char) : Bool :=
  (Text.half? a).any (· < 0xDC00) && (Text.half? b).any (0xDC00 ≤ ·)

/-- Characters inside a string. Halves side by side would have been joined when they were read, so
two characters that could stand in for them are written as themselves. -/
def escapeAll : List Char → List Char
  | [] => []
  | [c] => escape c
  | c :: d :: rest =>
    if isPair c d then numberEscape c.toNat ++ numberEscape d.toNat ++ escapeAll rest
    else escape c ++ escapeAll (d :: rest)

/-- A string with its quotes. -/
def string (s : String) : String :=
  String.ofList ('"' :: escapeAll s.toList ++ ['"'])

/-- A scalar. -/
def scalar : Scalar → String
  | .null => "null"
  | .bool true => "true"
  | .bool false => "false"
  | .int n => toString n
  | .real (.infinite s) => Double.signText s ++ "Infinity"
  | .real (.nan _) => "NaN"
  | .real x => x.toText
  | .text s => string s
  | .other s => string s

/-- The name of a member with a scalar as its key. -/
def memberName : Scalar → String
  | .text s => string s
  | s => "\"" ++ scalar s ++ "\""

/-- What stands between the parts of a list or table: before the first one, between two, and after
the last one. -/
structure Layout where
  opening : Nat → String
  between : Nat → String
  closing : Nat → String

/-- A line feed and the indentation of a level. -/
def newLine (level : Nat) : String :=
  String.ofList ('\n' :: List.replicate (2 * level) ' ')

/-- Everything on one line. -/
def Layout.compact : Layout := ⟨fun _ => "", fun _ => ", ", fun _ => ""⟩

/-- Every part on a line of its own. -/
def Layout.indented : Layout :=
  ⟨fun n => newLine (n + 1), fun n => "," ++ newLine (n + 1), newLine⟩

/-- Parts between brackets; without parts the brackets touch. -/
def bracketed (layout : Layout) (level : Nat) (left right : String) (parts : List String) :
    String :=
  if parts.isEmpty then left ++ right
  else left ++ layout.opening level ++ (layout.between level).intercalate parts ++
    layout.closing level ++ right

mutual

/-- A value at a level. -/
def write (layout : Layout) (level : Nat) : Value → String
  | .scalar s => scalar s
  | .list items => bracketed layout level "[" "]" (writeItems layout (level + 1) items)
  | .table entries => bracketed layout level "\x7b" "\x7d" (writeMembers layout (level + 1) entries)

/-- The items of a list at a level. -/
def writeItems (layout : Layout) (level : Nat) : List Value → List String
  | [] => []
  | v :: rest => write layout level v :: writeItems layout level rest

/-- The members of a table at a level. -/
def writeMembers (layout : Layout) (level : Nat) : List (Scalar × Value) → List String
  | [] => []
  | (k, v) :: rest =>
    (memberName k ++ ": " ++ write layout level v) :: writeMembers layout level rest

end

/-- A document on one line. -/
def compact (v : Value) : String :=
  write .compact 0 v

/-- A document with its parts on lines of their own. -/
def indented (v : Value) : String :=
  write .indented 0 v

end Triage.Json
