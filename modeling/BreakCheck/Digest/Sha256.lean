/-
BreakCheck/Digest/Sha256.lean

The SHA-256 digest of FIPS 180-4.

A message is padded to whole blocks of 64 bytes: a byte `0x80`, zeros, and the
length in bits as eight bytes.  Each block is spread out to 64 words, which are
then mixed one by one into eight registers; the registers after the last block
are the digest.
-/

namespace BreakCheck.Sha256

/-! ### Words -/

/-- The bits of a word moved to the right, those that fall out coming back on the left. -/
def rotate (word : UInt32) (places : UInt32) : UInt32 :=
  (word >>> places) ||| (word <<< (32 - places))

/-- The word with the bytes `a b c d`, the most significant first. -/
def wordOf (a b c d : UInt8) : UInt32 :=
  (a.toUInt32 <<< 24) ||| (b.toUInt32 <<< 16) ||| (c.toUInt32 <<< 8) ||| d.toUInt32

/-- The words of a row of bytes. -/
def wordsOf : List UInt8 → List UInt32
  | a :: b :: c :: d :: rest => wordOf a b c d :: wordsOf rest
  | _ => []

/-- The low bytes of a number, the most significant of them first. -/
def bigEndian (count : Nat) (value : Nat) : List UInt8 :=
  (List.range count).reverse.map fun i => UInt8.ofNat (value >>> (8 * i))

/-! ### Blocks -/

/-- A message followed by its padding. -/
def padded (message : List UInt8) : List UInt8 :=
  message ++ 0x80 :: (List.replicate ((119 - message.length % 64) % 64) 0
    ++ bigEndian 8 (8 * message.length))

/-- The first `count` blocks of 64 bytes. -/
def blocks : Nat → List UInt8 → List (List UInt8)
  | 0, _ => []
  | count + 1, bytes => bytes.take 64 :: blocks count (bytes.drop 64)

/-- Add `count` words to a schedule, which is kept with the last word first. -/
def extend : Nat → List UInt32 → List UInt32
  | 0, words => words
  | count + 1, words =>
    let near := words.getD 1 0
    let far := words.getD 14 0
    let mixNear := rotate near 17 ^^^ rotate near 19 ^^^ (near >>> 10)
    let mixFar := rotate far 7 ^^^ rotate far 18 ^^^ (far >>> 3)
    extend count ((mixNear + words.getD 6 0 + mixFar + words.getD 15 0) :: words)

/-- The 64 words of a block. -/
def schedule (block : List UInt8) : List UInt32 :=
  (extend 48 (wordsOf block).reverse).reverse

/-! ### Mixing -/

/-- The eight registers. -/
structure Registers where
  a : UInt32
  b : UInt32
  c : UInt32
  d : UInt32
  e : UInt32
  f : UInt32
  g : UInt32
  h : UInt32

namespace Registers

/-- The registers before the first block: fractions of the square roots of primes. -/
def start : Registers :=
  ⟨0x6a09e667, 0xbb67ae85, 0x3c6ef372, 0xa54ff53a,
    0x510e527f, 0x9b05688c, 0x1f83d9ab, 0x5be0cd19⟩

/-- Mix one word in, with the constant of its round. -/
def round (r : Registers) (constant word : UInt32) : Registers :=
  let choice := (r.e &&& r.f) ^^^ (~~~r.e &&& r.g)
  let majority := (r.a &&& r.b) ^^^ (r.a &&& r.c) ^^^ (r.b &&& r.c)
  let first := r.h + (rotate r.e 6 ^^^ rotate r.e 11 ^^^ rotate r.e 25) + choice + constant + word
  let second := (rotate r.a 2 ^^^ rotate r.a 13 ^^^ rotate r.a 22) + majority
  ⟨first + second, r.a, r.b, r.c, r.d + first, r.e, r.f, r.g⟩

/-- Add registers one by one. -/
def add (r s : Registers) : Registers :=
  ⟨r.a + s.a, r.b + s.b, r.c + s.c, r.d + s.d, r.e + s.e, r.f + s.f, r.g + s.g, r.h + s.h⟩

/-- The registers as words, in order. -/
def words (r : Registers) : Vector UInt32 8 := #v[r.a, r.b, r.c, r.d, r.e, r.f, r.g, r.h]

end Registers

/-- The constants of the 64 rounds: fractions of the cube roots of primes. -/
def constants : List UInt32 :=
  [0x428a2f98, 0x71374491, 0xb5c0fbcf, 0xe9b5dba5, 0x3956c25b, 0x59f111f1, 0x923f82a4, 0xab1c5ed5,
   0xd807aa98, 0x12835b01, 0x243185be, 0x550c7dc3, 0x72be5d74, 0x80deb1fe, 0x9bdc06a7, 0xc19bf174,
   0xe49b69c1, 0xefbe4786, 0x0fc19dc6, 0x240ca1cc, 0x2de92c6f, 0x4a7484aa, 0x5cb0a9dc, 0x76f988da,
   0x983e5152, 0xa831c66d, 0xb00327c8, 0xbf597fc7, 0xc6e00bf3, 0xd5a79147, 0x06ca6351, 0x14292967,
   0x27b70a85, 0x2e1b2138, 0x4d2c6dfc, 0x53380d13, 0x650a7354, 0x766a0abb, 0x81c2c92e, 0x92722c85,
   0xa2bfe8a1, 0xa81a664b, 0xc24b8b70, 0xc76c51a3, 0xd192e819, 0xd6990624, 0xf40e3585, 0x106aa070,
   0x19a4c116, 0x1e376c08, 0x2748774c, 0x34b0bcb5, 0x391c0cb3, 0x4ed8aa4a, 0x5b9cca4f, 0x682e6ff3,
   0x748f82ee, 0x78a5636f, 0x84c87814, 0x8cc70208, 0x90befffa, 0xa4506ceb, 0xbef9a3f7, 0xc67178f2]

/-- Mix a block in. -/
def absorb (r : Registers) (block : List UInt8) : Registers :=
  r.add <| (constants.zip (schedule block)).foldl
    (fun r (constant, word) => r.round constant word) r

/-- The digest of a message. -/
def digest (message : List UInt8) : Vector UInt8 32 :=
  let bytes := padded message
  let words := ((blocks (bytes.length / 64) bytes).foldl absorb .start).words
  Vector.ofFn fun i : Fin 32 =>
    (words[i.val / 4] >>> (UInt32.ofNat (24 - 8 * (i.val % 4)))).toUInt8

end BreakCheck.Sha256
