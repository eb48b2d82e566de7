/-!
# Base 64

Bytes written with 64 characters of ASCII, four characters for three bytes. Characters outside the
alphabet are passed over. Equals signs fill up the last four characters and end the text there;
elsewhere they are passed over too.
-/

namespace Triage.Text

/-- The value of a character of the alphabet. -/
def sextet? (c : Char) : Option Nat :=
  if 'A' ≤ c ∧ c ≤ 'Z' then some (c.toNat - 0x41)
  else if 'a' ≤ c ∧ c ≤ 'z' then some (c.toNat - 0x61 + 26)
  else if '0' ≤ c ∧ c ≤ '9' then some (c.toNat - 0x30 + 52)
  else if c = '+' then some 62
  else if c = '/' then some 63
  else none

/-- The bytes that a character completes, after the characters of its group that came before. -/
def completedByte (group : List Nat) (d : Nat) : List Nat :=
  match group with
  | [a] => [a * 4 + d / 16]
  | [_, b] => [b % 16 * 16 + d / 4]
  | [_, _, c] => [c % 4 * 64 + d]
  | _ => []

/-- Decodes a text. `group` are the values of the characters of the present group, and `fill` is the
count of equals signs after them. A text may not end inside a group, unless it is filled up. -/
def decodeGroup (group : List Nat) (fill : Nat) : List Char → Option (List Nat)
  | [] => if group.isEmpty then some [] else none
  | c :: rest =>
    if c = '=' then
      if group.length < 2 then decodeGroup group fill rest
      else if 4 ≤ group.length + fill + 1 then some []
      else decodeGroup group (fill + 1) rest
    else match sextet? c with
      | none => decodeGroup group fill rest
      | some d =>
        let next := if group.length = 3 then [] else group ++ [d]
        (decodeGroup next 0 rest).map (completedByte group d ++ ·)

/-- The bytes that a text of ASCII writes. -/
def decodeBase64? (cs : List Char) : Option (List Nat) :=
  if cs.all fun c => c.toNat < 0x80 then decodeGroup [] 0 cs else none

end Triage.Text
