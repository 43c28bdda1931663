/-! # SHA-256

The hash of FIPS 180-4 over a list of bytes. A message is padded to whole blocks of sixteen words;
each block is stretched to sixty-four words and stirred into the chain of eight words.

* `digest` gives the thirty-two bytes of the final chain. -/

namespace MockCloud.Digest.Sha256

/-- The eight words that are carried from block to block. -/
structure Chain where
  (a b c d e f g h : UInt32)

/-- The chain before the first block. -/
def Chain.initial : Chain :=
  ⟨0x6a09e667, 0xbb67ae85, 0x3c6ef372, 0xa54ff53a, 0x510e527f, 0x9b05688c, 0x1f83d9ab, 0x5be0cd19⟩

/-- One constant for each of the sixty-four rounds. -/
def roundConstants : List UInt32 :=
  [0x428a2f98, 0x71374491, 0xb5c0fbcf, 0xe9b5dba5, 0x3956c25b, 0x59f111f1, 0x923f82a4, 0xab1c5ed5,
   0xd807aa98, 0x12835b01, 0x243185be, 0x550c7dc3, 0x72be5d74, 0x80deb1fe, 0x9bdc06a7, 0xc19bf174,
   0xe49b69c1, 0xefbe4786, 0x0fc19dc6, 0x240ca1cc, 0x2de92c6f, 0x4a7484aa, 0x5cb0a9dc, 0x76f988da,
   0x983e5152, 0xa831c66d, 0xb00327c8, 0xbf597fc7, 0xc6e00bf3, 0xd5a79147, 0x06ca6351, 0x14292967,
   0x27b70a85, 0x2e1b2138, 0x4d2c6dfc, 0x53380d13, 0x650a7354, 0x766a0abb, 0x81c2c92e, 0x92722c85,
   0xa2bfe8a1, 0xa81a664b, 0xc24b8b70, 0xc76c51a3, 0xd192e819, 0xd6990624, 0xf40e3585, 0x106aa070,
   0x19a4c116, 0x1e376c08, 0x2748774c, 0x34b0bcb5, 0x391c0cb3, 0x4ed8aa4a, 0x5b9cca4f, 0x682e6ff3,
   0x748f82ee, 0x78a5636f, 0x84c87814, 0x8cc70208, 0x90befffa, 0xa4506ceb, 0xbef9a3f7, 0xc67178f2]

/-- The word turned to the right by `n` bits. -/
def turn (x n : UInt32) : UInt32 :=
  (x >>> n) ||| (x <<< (32 - n))

/-- The next `n` words of a schedule whose last sixteen words, oldest first, are `w`. -/
def stretch : Nat → List UInt32 → List UInt32
  | 0, _ => []
  | n + 1, w =>
    let x := w.getD 1 0
    let y := w.getD 14 0
    let next := w.getD 0 0 + (turn x 7 ^^^ turn x 18 ^^^ (x >>> 3)) + w.getD 9 0 +
      (turn y 17 ^^^ turn y 19 ^^^ (y >>> 10))
    next :: stretch n (w.tail ++ [next])

/-- One round with a constant and a word of the schedule. -/
def Chain.round (s : Chain) (kw : UInt32 × UInt32) : Chain :=
  let t1 := s.h + (turn s.e 6 ^^^ turn s.e 11 ^^^ turn s.e 25) +
    ((s.e &&& s.f) ^^^ (~~~s.e &&& s.g)) + kw.1 + kw.2
  let t2 := (turn s.a 2 ^^^ turn s.a 13 ^^^ turn s.a 22) +
    ((s.a &&& s.b) ^^^ (s.a &&& s.c) ^^^ (s.b &&& s.c))
  ⟨t1 + t2, s.a, s.b, s.c, s.d + t1, s.e, s.f, s.g⟩

/-- The chain after a block of sixteen words. -/
def Chain.absorb (s : Chain) (block : List UInt32) : Chain :=
  let r := (roundConstants.zip (block ++ stretch 48 block)).foldl Chain.round s
  ⟨s.a + r.a, s.b + r.b, s.c + r.c, s.d + r.d, s.e + r.e, s.f + r.f, s.g + r.g, s.h + r.h⟩

/-- The chain after the first `n` blocks of the words. -/
def Chain.absorbAll (s : Chain) : Nat → List UInt32 → Chain
  | 0, _ => s
  | n + 1, words => (s.absorb (words.take 16)).absorbAll n (words.drop 16)

/-- Four bytes make a word, the first one in the highest place. -/
def words : List UInt8 → List UInt32
  | a :: b :: c :: d :: rest =>
    (a.toUInt32 <<< 24 ||| b.toUInt32 <<< 16 ||| c.toUInt32 <<< 8 ||| d.toUInt32) :: words rest
  | _ => []

/-- The low `count` bytes of a number, the highest first. -/
def bigEndian (count n : Nat) : List UInt8 :=
  (List.range count).map fun i => UInt8.ofNat (n >>> (8 * (count - 1 - i)))

/-- The message, a mark, zeros, and the message's length in bits: a whole number of blocks. -/
def padded (message : List UInt8) : List UInt8 :=
  message ++ 0x80 :: List.replicate ((119 - message.length % 64) % 64) 0 ++
    bigEndian 8 (8 * message.length)

/-- The SHA-256 hash of a message. -/
def digest (message : List UInt8) : List UInt8 :=
  let input := words (padded message)
  let s := Chain.initial.absorbAll (input.length / 16) input
  [s.a, s.b, s.c, s.d, s.e, s.f, s.g, s.h].flatMap fun w => bigEndian 4 w.toNat

end MockCloud.Digest.Sha256
