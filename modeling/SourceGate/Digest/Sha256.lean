import SourceGate.Text.Hex

/-! # SHA-256

The hash of a byte list, block by block, and its written form.
-/

namespace SourceGate.Digest

/-- The round constants. -/
def roundConstants : List UInt32 :=
  [0x428a2f98, 0x71374491, 0xb5c0fbcf, 0xe9b5dba5, 0x3956c25b, 0x59f111f1, 0x923f82a4, 0xab1c5ed5,
    0xd807aa98, 0x12835b01, 0x243185be, 0x550c7dc3, 0x72be5d74, 0x80deb1fe, 0x9bdc06a7, 0xc19bf174,
    0xe49b69c1, 0xefbe4786, 0x0fc19dc6, 0x240ca1cc, 0x2de92c6f, 0x4a7484aa, 0x5cb0a9dc, 0x76f988da,
    0x983e5152, 0xa831c66d, 0xb00327c8, 0xbf597fc7, 0xc6e00bf3, 0xd5a79147, 0x06ca6351, 0x14292967,
    0x27b70a85, 0x2e1b2138, 0x4d2c6dfc, 0x53380d13, 0x650a7354, 0x766a0abb, 0x81c2c92e, 0x92722c85,
    0xa2bfe8a1, 0xa81a664b, 0xc24b8b70, 0xc76c51a3, 0xd192e819, 0xd6990624, 0xf40e3585, 0x106aa070,
    0x19a4c116, 0x1e376c08, 0x2748774c, 0x34b0bcb5, 0x391c0cb3, 0x4ed8aa4a, 0x5b9cca4f, 0x682e6ff3,
    0x748f82ee, 0x78a5636f, 0x84c87814, 0x8cc70208, 0x90befffa, 0xa4506ceb, 0xbef9a3f7, 0xc67178f2]

/-- The eight chaining words. -/
structure Chain where
  a : UInt32
  b : UInt32
  c : UInt32
  d : UInt32
  e : UInt32
  f : UInt32
  g : UInt32
  h : UInt32
  deriving DecidableEq, Repr

namespace Chain

def start : Chain :=
  ⟨0x6a09e667, 0xbb67ae85, 0x3c6ef372, 0xa54ff53a, 0x510e527f, 0x9b05688c, 0x1f83d9ab, 0x5be0cd19⟩

def toList (s : Chain) : List UInt32 := [s.a, s.b, s.c, s.d, s.e, s.f, s.g, s.h]

def add (s t : Chain) : Chain :=
  ⟨s.a + t.a, s.b + t.b, s.c + t.c, s.d + t.d, s.e + t.e, s.f + t.f, s.g + t.g, s.h + t.h⟩

end Chain

def rotateRight (x : UInt32) (n : UInt32) : UInt32 := (x >>> n) ||| (x <<< (32 - n))

/-- One round, with the sum of its constant and its schedule word. -/
def round (s : Chain) (word : UInt32) : Chain :=
  let mix := rotateRight s.e 6 ^^^ rotateRight s.e 11 ^^^ rotateRight s.e 25
  let choice := (s.e &&& s.f) ^^^ (~~~s.e &&& s.g)
  let t := s.h + mix + choice + word
  let spread := rotateRight s.a 2 ^^^ rotateRight s.a 13 ^^^ rotateRight s.a 22
  let majority := (s.a &&& s.b) ^^^ (s.a &&& s.c) ^^^ (s.b &&& s.c)
  ⟨t + spread + majority, s.a, s.b, s.c, s.d + t, s.e, s.f, s.g⟩

/-- The next schedule word, from the last sixteen, the latest first. -/
def nextWord (latest : List UInt32) : UInt32 :=
  let near := latest.getD 1 0
  let far := latest.getD 14 0
  let s1 := rotateRight near 17 ^^^ rotateRight near 19 ^^^ (near >>> 10)
  let s0 := rotateRight far 7 ^^^ rotateRight far 18 ^^^ (far >>> 3)
  s1 + latest.getD 6 0 + s0 + latest.getD 15 0

/-- `count` more schedule words, put in front of those there are. -/
def extend (latest : List UInt32) : Nat → List UInt32
  | 0 => latest
  | count + 1 => extend (nextWord latest :: latest) count

/-- The sixty-four schedule words of a block of sixteen. -/
def schedule (block : List UInt32) : List UInt32 := (extend block.reverse 48).reverse

def compress (s : Chain) (block : List UInt32) : Chain :=
  s.add ((List.zipWith (· + ·) roundConstants (schedule block)).foldl round s)

/-- The `count` bytes of a number, the highest first. -/
def bigEndian (count n : Nat) : List UInt8 :=
  (List.range count).reverse.map fun i => (n >>> (8 * i)).toUInt8

/-- The message with a one bit, zeros up to 56 bytes of the last block, and its length in bits. -/
def padded (message : List UInt8) : List UInt8 :=
  let zeros := (119 - message.length % 64) % 64
  message ++ 0x80 :: (List.replicate zeros 0 ++ bigEndian 8 (8 * message.length))

/-- Words of four bytes, the highest first. -/
def words : List UInt8 → List UInt32
  | a :: b :: c :: d :: rest =>
    ((a.toUInt32 <<< 24) ||| (b.toUInt32 <<< 16) ||| (c.toUInt32 <<< 8) ||| d.toUInt32) ::
      words rest
  | _ => []

/-- Folds blocks of sixteen words, at most `count` of them, into the chain. -/
def absorb (s : Chain) (text : List UInt32) : Nat → Chain
  | 0 => s
  | count + 1 => if text.isEmpty then s else absorb (compress s (text.take 16)) (text.drop 16) count

/-- The hash of a message. -/
def sha256 (message : List UInt8) : List UInt8 :=
  let text := words (padded message)
  (absorb .start text text.length).toList.flatMap fun w => bigEndian 4 w.toNat

/-- Two lower-case digits for each byte. -/
def hex (bytes : List UInt8) : String :=
  String.ofList (bytes.flatMap fun b =>
    [Text.hexDigit (b.toNat / 16), Text.hexDigit (b.toNat % 16)])

end SourceGate.Digest
