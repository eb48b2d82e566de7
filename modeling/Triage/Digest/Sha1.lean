import Triage.Digest.Words

/-!
# SHA-1

The secure hash of 160 bits.
-/

namespace Triage.Digest.Sha1

/-- The five words between blocks. -/
structure State where
  a : UInt32
  b : UInt32
  c : UInt32
  d : UInt32
  e : UInt32

/-- The state before the first block. -/
def initial : State :=
  ⟨0x67452301, 0xefcdab89, 0x98badcfe, 0x10325476, 0xc3d2e1f0⟩

/-- Extends the words of a block by one. -/
def extend (w : Array UInt32) : Array UInt32 :=
  let at_ (back : Nat) := w.getD (w.size - back) 0
  w.push (rotateLeft (at_ 3 ^^^ at_ 8 ^^^ at_ 14 ^^^ at_ 16) 1)

/-- The 80 words that a block is mixed in as. -/
def schedule (block : Array UInt32) : Array UInt32 :=
  (List.range 64).foldl (fun w _ => extend w) block

/-- The choice of bits and the constant of a round, by its number. -/
def roundPart (i : Nat) (s : State) : UInt32 × UInt32 :=
  if i < 20 then ((s.b &&& s.c) ||| ((~~~ s.b) &&& s.d), 0x5a827999)
  else if i < 40 then (s.b ^^^ s.c ^^^ s.d, 0x6ed9eba1)
  else if i < 60 then ((s.b &&& s.c) ||| (s.b &&& s.d) ||| (s.c &&& s.d), 0x8f1bbcdc)
  else (s.b ^^^ s.c ^^^ s.d, 0xca62c1d6)

/-- Mixes in one word. -/
def mix (i : Nat) (s : State) (word : UInt32) : State :=
  let (bits, constant) := roundPart i s
  ⟨rotateLeft s.a 5 + bits + s.e + constant + word, s.a, rotateLeft s.b 30, s.c, s.d⟩

/-- Mixes in one block. -/
def compress (s : State) (block : Array UInt32) : State :=
  let w := schedule block
  let t := (List.range 80).foldl (fun t i => mix i t (w.getD i 0)) s
  ⟨s.a + t.a, s.b + t.b, s.c + t.c, s.d + t.d, s.e + t.e⟩

/-- The digest of bytes in hexadecimal, 40 digits. -/
def hexOfBytes (message : List UInt8) : String :=
  let s := (blocksOf (wordsOf (padded message))).foldl compress initial
  hexText [s.a, s.b, s.c, s.d, s.e]

/-- The digest of the UTF-8 form of a text in hexadecimal. -/
@[irreducible]
def hex (text : String) : String :=
  hexOfBytes text.toUTF8.data.toList

end Triage.Digest.Sha1
