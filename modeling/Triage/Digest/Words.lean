import Triage.Positional

/-!
# Words of a digest

What the two secure hash functions share: the padded message, its division into blocks of sixteen
32-bit words, and the hexadecimal text of a digest.
-/

namespace Triage.Digest

/-- The bytes of a number, the highest first. -/
def bigEndian (size n : Nat) : List UInt8 :=
  (lastDigits 256 size n).map UInt8.ofNat

/-- A message with a one bit, zeros, and its length in bits, which fill the last block of
64 bytes. -/
def padded (message : List UInt8) : List UInt8 :=
  let zeroCount := (119 - message.length % 64) % 64
  message ++ 0x80 :: List.replicate zeroCount 0 ++ bigEndian 8 (message.length * 8)

/-- The words of bytes, four bytes each. -/
def wordsOf : List UInt8 → List UInt32
  | a :: b :: c :: d :: rest =>
    ((a.toUInt32 <<< 24) ||| (b.toUInt32 <<< 16) ||| (c.toUInt32 <<< 8) ||| d.toUInt32) ::
      wordsOf rest
  | _ => []

/-- Cuts words into blocks of sixteen. -/
def blocksOf (words : List UInt32) : List (Array UInt32) :=
  (List.range (words.length / 16)).map fun i => ((words.drop (16 * i)).take 16).toArray

/-- Rotates a word to the left. -/
def rotateLeft (x : UInt32) (n : UInt32) : UInt32 :=
  (x <<< n) ||| (x >>> (32 - n))

/-- Rotates a word to the right. -/
def rotateRight (x : UInt32) (n : UInt32) : UInt32 :=
  (x >>> n) ||| (x <<< (32 - n))

/-- The eight hexadecimal digits of a word. -/
def hexWord (x : UInt32) : List Char :=
  (lastDigits 16 8 x.toNat).map Nat.digitChar

/-- The hexadecimal text of a digest. -/
def hexText (words : List UInt32) : String :=
  String.ofList (words.flatMap hexWord)

end Triage.Digest
