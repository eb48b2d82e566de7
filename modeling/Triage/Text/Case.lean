import Triage.Text.Blank
import Triage.Text.Unicode

/-!
# Case

Lower case as comparisons with ASCII words see it, and the full lower and upper case of any text.
Beside the letters of ASCII only two characters have an ASCII letter in their lower case: the Kelvin
sign, and the dotted capital I, whose dot becomes a mark of its own. `lower` changes no other
character, so a text has to be compared with ASCII text, or be stripped of everything else, after it
was lowered.
-/

namespace Triage.Text

/-! ### ASCII -/

/-- The lower case of one character. -/
def lowerChar (c : Char) : List Char :=
  if 'A' ≤ c ∧ c ≤ 'Z' then [Char.ofNat (c.toNat + 32)]
  else if c = '\u212A' then ['k']
  else if c = '\u0130' then ['i', '\u0307']
  else [c]

/-- The lower case of a text. -/
def lower (cs : List Char) : List Char :=
  cs.flatMap lowerChar

/-- A letter or digit of ASCII in lower case. -/
def isLowerAlnum (c : Char) : Bool :=
  ('a' ≤ c && c ≤ 'z') || ('0' ≤ c && c ≤ '9')

/-- The word that a label spells: its text without surrounding blanks, in lower case. -/
def label (s : String) : String :=
  String.ofList (lower (trim s.toList))

/-! ### Upper case -/

/-- The upper case of one character; a character without one is its own. -/
def upperChar (c : Char) : List Char :=
  let n := c.toNat
  if n < 0x80 then
    [if 'a' ≤ c ∧ c ≤ 'z' then Char.ofNat (n - 32) else c]
  else match upperExpansions.lookup n with
    | some codes => codes.map Char.ofNat
    | none => [otherCase upperRuns c]

/-- The upper case of a text. -/
def upper (cs : List Char) : List Char :=
  cs.flatMap upperChar

/-! ### Lower case

A capital sigma has two small letters: the one for the end of a word is taken behind a letter with
case, unless such a letter follows.
-/

/-- The small letter of one character, but for those that are compared with ASCII; a character
without one is its own. -/
def smallLetter (c : Char) : Char :=
  otherCase lowerRuns c

/-- The lower case of one character in any place of a word. -/
def fullLowerChar (c : Char) : List Char :=
  match lowerChar c with
  | [d] => [smallLetter d]
  | ds => ds

/-- Whether the first character of a text that is not passed over has case. -/
def meetsLetter (cs : List Char) : Bool :=
  (cs.dropWhile caseIgnorableRanges.has).head?.any casedRanges.has

/-- The lower case of a text behind another one, which is given from its end. -/
def lowerAfter (before : List Char) : List Char → List Char
  | [] => []
  | c :: rest =>
    let lowered :=
      if c = '\u03A3' && meetsLetter before && !meetsLetter rest then ['\u03C2']
      else fullLowerChar c
    lowered ++ lowerAfter (c :: before) rest

/-- The full lower case of a text. -/
def fullLower (cs : List Char) : List Char :=
  lowerAfter [] cs

end Triage.Text
