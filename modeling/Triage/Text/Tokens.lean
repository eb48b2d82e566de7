import Triage.Text.Case

/-!
# Tidy text and tokens

The canonical forms of free text: `tidy` keeps the lines of a text and drops the blanks that end
them, `singleLine` joins its words by single spaces, and `titleKey` keeps of these only the letters
and digits that ASCII has. Two titles with one key say the same. For likeness, texts are compared by
their tokens.
-/

namespace Triage.Text

/-! ### Canonical forms -/

/-- One character in front of a text without blanks before its line feeds. -/
def absorbBlank (c : Char) (rest : List Char) : List Char :=
  if isBlank c then
    match rest with
    | '\n' :: _ => rest
    | _ => c :: rest
  else c :: rest

/-- Drops the blanks in front of every line feed, other line feeds among them. -/
def dropLineEnds (cs : List Char) : List Char :=
  cs.foldr absorbBlank []

/-- A text without blanks at its ends and at the ends of its lines, and without empty lines. -/
def tidy (cs : List Char) : List Char :=
  trim (dropLineEnds cs)

/-- A text on one line, its words separated by single spaces. -/
def singleLine (cs : List Char) : List Char :=
  squeeze isBlank (tidy cs)

/-- The words of lower-case ASCII letters and digits in a text, separated by single spaces. -/
def alnumKey (cs : List Char) : List Char :=
  trim (squeeze (fun c => !isLowerAlnum c) cs)

/-- What a title says, whatever its case, spacing and punctuation. -/
def titleKey (cs : List Char) : List Char :=
  alnumKey (lower (singleLine cs))

/-- What stands in a field that was left out. -/
def placeholders : List String :=
  ["", "\"\"", "''", "n/a", "none", "(none)"]

/-- Whether a text says anything. -/
def isMeaningful (s : String) : Bool :=
  String.ofList (lower (tidy s.toList)) ∉ placeholders

/-! ### Tokens -/

/-- Words that say nothing about the issue. -/
def noiseWords : List String :=
  ["the", "and", "for", "with", "from", "that", "this", "have", "has", "into", "when", "where",
    "should", "could", "would", "runs", "run"]

/-- The fewest characters of a token. -/
def minTokenLength : Nat := 3

/-- Whether a word counts for likeness. -/
def isToken (word : List Char) : Bool :=
  minTokenLength ≤ word.length && String.ofList word ∉ noiseWords

/-- One character in front of a text without escaped line feeds: a backslash takes the `n` that
follows it. -/
def blankEscape (c : Char) (rest : List Char) : List Char :=
  if c = '\\' then
    match rest with
    | 'n' :: after => ' ' :: after
    | _ => c :: rest
  else c :: rest

/-- Replaces the line feeds that a text spells with a backslash and an `n` by spaces. -/
def blankEscapes (cs : List Char) : List Char :=
  cs.foldr blankEscape []

/-- The tokens of a text, each of them once. -/
def tokens (s : String) : List String :=
  ((words (alnumKey (blankEscapes (lower s.toList)))).filter isToken).map String.ofList |>.eraseDups

end Triage.Text
