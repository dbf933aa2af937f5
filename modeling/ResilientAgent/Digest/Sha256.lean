/-!
# SHA-256

The hash of FIPS 180-4 over a byte string. The message is padded with a one bit, zeros and its
length in bits (a big-endian 64-bit word) to whole 64-byte blocks; each block is expanded to a
schedule of sixty-four words and compressed into the eight-word chaining state, which after the
last block is the digest.
-/

namespace ResilientAgent.Sha256

/-- The round constants: the first 32 bits of the fractional parts of the cube roots of the
first sixty-four primes. -/
def roundConstants : Array UInt32 := #[
  0x428a2f98, 0x71374491, 0xb5c0fbcf, 0xe9b5dba5, 0x3956c25b, 0x59f111f1, 0x923f82a4, 0xab1c5ed5,
  0xd807aa98, 0x12835b01, 0x243185be, 0x550c7dc3, 0x72be5d74, 0x80deb1fe, 0x9bdc06a7, 0xc19bf174,
  0xe49b69c1, 0xefbe4786, 0x0fc19dc6, 0x240ca1cc, 0x2de92c6f, 0x4a7484aa, 0x5cb0a9dc, 0x76f988da,
  0x983e5152, 0xa831c66d, 0xb00327c8, 0xbf597fc7, 0xc6e00bf3, 0xd5a79147, 0x06ca6351, 0x14292967,
  0x27b70a85, 0x2e1b2138, 0x4d2c6dfc, 0x53380d13, 0x650a7354, 0x766a0abb, 0x81c2c92e, 0x92722c85,
  0xa2bfe8a1, 0xa81a664b, 0xc24b8b70, 0xc76c51a3, 0xd192e819, 0xd6990624, 0xf40e3585, 0x106aa070,
  0x19a4c116, 0x1e376c08, 0x2748774c, 0x34b0bcb5, 0x391c0cb3, 0x4ed8aa4a, 0x5b9cca4f, 0x682e6ff3,
  0x748f82ee, 0x78a5636f, 0x84c87814, 0x8cc70208, 0x90befffa, 0xa4506ceb, 0xbef9a3f7, 0xc67178f2]

/-- The eight working registers, which also hold the chaining state between blocks. -/
structure Registers where
  a : UInt32
  b : UInt32
  c : UInt32
  d : UInt32
  e : UInt32
  f : UInt32
  g : UInt32
  h : UInt32
  deriving Repr, DecidableEq, Inhabited

/-- The initial state: the first 32 bits of the fractional parts of the square roots of the
first eight primes. -/
def initialState : Registers :=
  ⟨0x6a09e667, 0xbb67ae85, 0x3c6ef372, 0xa54ff53a, 0x510e527f, 0x9b05688c, 0x1f83d9ab, 0x5be0cd19⟩

def rotr (x n : UInt32) : UInt32 := (x >>> n) ||| (x <<< (32 - n))

def bigSigma0 (x : UInt32) : UInt32 := rotr x 2 ^^^ rotr x 13 ^^^ rotr x 22

def bigSigma1 (x : UInt32) : UInt32 := rotr x 6 ^^^ rotr x 11 ^^^ rotr x 25

def smallSigma0 (x : UInt32) : UInt32 := rotr x 7 ^^^ rotr x 18 ^^^ (x >>> 3)

def smallSigma1 (x : UInt32) : UInt32 := rotr x 17 ^^^ rotr x 19 ^^^ (x >>> 10)

def choose (e f g : UInt32) : UInt32 := (e &&& f) ^^^ (~~~e &&& g)

def majority (a b c : UInt32) : UInt32 := (a &&& b) ^^^ (a &&& c) ^^^ (b &&& c)

def byteAt (m : ByteArray) (i : Nat) : UInt8 := m.data.getD i 0

def wordAt (m : ByteArray) (i : Nat) : UInt32 :=
  (byteAt m i).toUInt32 <<< 24 ||| (byteAt m (i + 1)).toUInt32 <<< 16 |||
    (byteAt m (i + 2)).toUInt32 <<< 8 ||| (byteAt m (i + 3)).toUInt32

def bigEndian64 (n : Nat) : List UInt8 :=
  (List.range 8).map fun i => (n / Nat.pow 2 (8 * (7 - i))).toUInt8

def wordBytes (w : UInt32) : List UInt8 :=
  [(w >>> 24).toUInt8, (w >>> 16).toUInt8, (w >>> 8).toUInt8, w.toUInt8]

/-- The number of zero bytes between the `0x80` marker and the length, so that the padded
message fills whole blocks. -/
def paddingZeros (size : Nat) : Nat := (64 + 55 - size % 64) % 64

def pad (m : ByteArray) : ByteArray :=
  m ++ ⟨(0x80 :: List.replicate (paddingZeros m.size) 0 ++ bigEndian64 (8 * m.size)).toArray⟩

/-- The sixty-four schedule words of the block at `start`: its sixteen words, then each word
from the four before it at distances 2, 7, 15 and 16. -/
def schedule (m : ByteArray) (start : Nat) : Array UInt32 :=
  (List.range 48).foldl (fun w t =>
      w.push (smallSigma1 (w.getD (t + 14) 0) + w.getD (t + 9) 0 +
        smallSigma0 (w.getD (t + 1) 0) + w.getD t 0))
    ((List.range 16).map fun i => wordAt m (start + 4 * i)).toArray

/-- One compression round with round constant `k` and schedule word `w`. -/
def round (r : Registers) (k w : UInt32) : Registers :=
  let t1 := r.h + bigSigma1 r.e + choose r.e r.f r.g + k + w
  let t2 := bigSigma0 r.a + majority r.a r.b r.c
  ⟨t1 + t2, r.a, r.b, r.c, r.d + t1, r.e, r.f, r.g⟩

def Registers.add (r s : Registers) : Registers :=
  ⟨r.a + s.a, r.b + s.b, r.c + s.c, r.d + s.d, r.e + s.e, r.f + s.f, r.g + s.g, r.h + s.h⟩

def Registers.words (r : Registers) : List UInt32 := [r.a, r.b, r.c, r.d, r.e, r.f, r.g, r.h]

def compress (state : Registers) (m : ByteArray) (start : Nat) : Registers :=
  let w := schedule m start
  state.add ((List.range 64).foldl (fun r t => round r (roundConstants.getD t 0) (w.getD t 0)) state)

/-- The 32-byte digest of a message. -/
def digest (m : ByteArray) : ByteArray :=
  let p := pad m
  let final := (List.range (p.size / 64)).foldl (fun s i => compress s p (64 * i)) initialState
  ⟨(final.words.flatMap wordBytes).toArray⟩

def hexDigit (n : Nat) : Char :=
  if n < 10 then Char.ofNat ('0'.toNat + n) else Char.ofNat ('a'.toNat + n - 10)

def hex (b : ByteArray) : String :=
  String.ofList (b.data.toList.flatMap fun x => [hexDigit (x.toNat / 16), hexDigit (x.toNat % 16)])

end ResilientAgent.Sha256
