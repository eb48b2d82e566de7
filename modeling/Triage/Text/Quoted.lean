import Triage.Positional
import Triage.Text.Unicode

/-!
# Quoted text

How messages show a text: between quotes, with escapes for the quote, the backslash and all that is
not printable. Single quotes are used unless the text holds one of them and no double quote.
-/

namespace Triage.Text

/-! ### Lone surrogates

A text may hold halves of surrogate pairs that stand alone, which no character is. Each of the 2048
halves is kept as a stand-in: the character of the last private plane with the same last digits. A
text with a stand-in has no bytes, and where it is shown, the half is shown.

The stand-ins are characters themselves, U+10D800 to U+10DFFF, which are assigned to nobody. Texts
with one of these are left out: what is said of a text with a stand-in is said of the half. The
order of texts is that of the stand-ins, behind all other characters, where a half stands before
those from U+E000 on.
-/

/-- Where the last private plane begins. -/
def standInPlane : Nat := 0x100000

/-- Whether a code unit is half of a surrogate pair. -/
def isHalf (unit : Nat) : Bool :=
  0xD800 ≤ unit && unit < 0xE000

/-- The character of a code unit: the stand-in of half of a pair, and otherwise the one with that
number. -/
def ofUnit (unit : Nat) : Char :=
  if isHalf unit then Char.ofNat (standInPlane + unit) else Char.ofNat unit

/-- The half that a character stands in for. -/
def half? (c : Char) : Option Nat :=
  let unit := c.toNat - standInPlane
  if standInPlane ≤ c.toNat && isHalf unit then some unit else none

/-- Whether a text has bytes: it has no half of a pair that stands alone. -/
def isEncodable (s : String) : Bool :=
  s.toList.all fun c => (half? c).isNone

/-! ### Between quotes -/

/-- The last digits of a number in base sixteen, in lower case. -/
def hexDigits (width n : Nat) : List Char :=
  (lastDigits 16 width n).map Nat.digitChar

/-- One character of a quoted text. -/
def quoteChar (quote c : Char) : List Char :=
  if c = quote ∨ c = '\\' then ['\\', c]
  else if c = '\n' then ['\\', 'n']
  else if c = '\r' then ['\\', 'r']
  else if c = '\t' then ['\\', 't']
  else if isPrintable c then [c]
  else if let some unit := half? c then '\\' :: 'u' :: hexDigits 4 unit
  else if c.toNat < 0x100 then '\\' :: 'x' :: hexDigits 2 c.toNat
  else if c.toNat < 0x10000 then '\\' :: 'u' :: hexDigits 4 c.toNat
  else '\\' :: 'U' :: hexDigits 8 c.toNat

/-- The quote that a text is shown between. -/
def quoteFor (cs : List Char) : Char :=
  if '\'' ∈ cs ∧ '"' ∉ cs then '"' else '\''

/-- A text between quotes. -/
def quoted (s : String) : String :=
  let quote := quoteFor s.toList
  String.ofList (quote :: s.toList.flatMap (quoteChar quote) ++ [quote])

/-- Bytes between quotes behind a letter: a byte is shown as the character of ASCII with its number,
if that is printable. -/
def quotedBytes (bytes : List Nat) : String :=
  let cs := bytes.map Char.ofNat
  let quote := quoteFor cs
  let byteChar (c : Char) : List Char :=
    if c.toNat < 0x80 then quoteChar quote c else '\\' :: 'x' :: hexDigits 2 c.toNat
  String.ofList ('b' :: quote :: cs.flatMap byteChar ++ [quote])

/-- Texts between quotes, as a list in brackets. -/
def quotedList (items : List String) : String :=
  "[" ++ ", ".intercalate (items.map quoted) ++ "]"

end Triage.Text
