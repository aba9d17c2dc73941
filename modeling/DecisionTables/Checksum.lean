import DecisionTables.Text.Quoted

/-!
# Checksums

The content of a model is identified by its SHA-256 digest, written in hexadecimal digits after the
name of the method. The message is padded to whole blocks of sixteen words; each block is stretched
to a schedule of sixty-four words, which are mixed into the state of eight words one after another.
-/

namespace DecisionTables

/-- The content of a source. -/
abbrev Bytes := List UInt8

namespace Checksum

/-- The eight words that a digest consists of. -/
structure Digest where
  a : UInt32
  b : UInt32
  c : UInt32
  d : UInt32
  e : UInt32
  f : UInt32
  g : UInt32
  h : UInt32
  deriving DecidableEq

/-- The digest before the first block: the fractional parts of the square roots of the first eight
primes. -/
def start : Digest :=
  ⟨0x6a09e667, 0xbb67ae85, 0x3c6ef372, 0xa54ff53a, 0x510e527f, 0x9b05688c, 0x1f83d9ab, 0x5be0cd19⟩

/-- The constants of the rounds: the fractional parts of the cube roots of the first sixty-four
primes. -/
def roundConstants : List UInt32 := [
  0x428a2f98, 0x71374491, 0xb5c0fbcf, 0xe9b5dba5, 0x3956c25b, 0x59f111f1, 0x923f82a4, 0xab1c5ed5,
  0xd807aa98, 0x12835b01, 0x243185be, 0x550c7dc3, 0x72be5d74, 0x80deb1fe, 0x9bdc06a7, 0xc19bf174,
  0xe49b69c1, 0xefbe4786, 0x0fc19dc6, 0x240ca1cc, 0x2de92c6f, 0x4a7484aa, 0x5cb0a9dc, 0x76f988da,
  0x983e5152, 0xa831c66d, 0xb00327c8, 0xbf597fc7, 0xc6e00bf3, 0xd5a79147, 0x06ca6351, 0x14292967,
  0x27b70a85, 0x2e1b2138, 0x4d2c6dfc, 0x53380d13, 0x650a7354, 0x766a0abb, 0x81c2c92e, 0x92722c85,
  0xa2bfe8a1, 0xa81a664b, 0xc24b8b70, 0xc76c51a3, 0xd192e819, 0xd6990624, 0xf40e3585, 0x106aa070,
  0x19a4c116, 0x1e376c08, 0x2748774c, 0x34b0bcb5, 0x391c0cb3, 0x4ed8aa4a, 0x5b9cca4f, 0x682e6ff3,
  0x748f82ee, 0x78a5636f, 0x84c87814, 0x8cc70208, 0x90befffa, 0xa4506ceb, 0xbef9a3f7, 0xc67178f2]

def rotate (word : UInt32) (count : UInt32) : UInt32 :=
  (word >>> count) ||| (word <<< (32 - count))

/-- One round with a constant and a word of the schedule. -/
def Digest.round (state : Digest) (constant word : UInt32) : Digest :=
  let choice := (state.e &&& state.f) ^^^ ((~~~state.e) &&& state.g)
  let majority := (state.a &&& state.b) ^^^ (state.a &&& state.c) ^^^ (state.b &&& state.c)
  let first := state.h + (rotate state.e 6 ^^^ rotate state.e 11 ^^^ rotate state.e 25) + choice +
    constant + word
  let second := (rotate state.a 2 ^^^ rotate state.a 13 ^^^ rotate state.a 22) + majority
  ⟨first + second, state.a, state.b, state.c, state.d + first, state.e, state.f, state.g⟩

/-- The word-wise sum of two digests. -/
def Digest.add (left right : Digest) : Digest :=
  ⟨left.a + right.a, left.b + right.b, left.c + right.c, left.d + right.d,
    left.e + right.e, left.f + right.f, left.g + right.g, left.h + right.h⟩

/-- The word that follows the words of a schedule, which are given latest first. -/
def nextWord (latest : List UInt32) : UInt32 :=
  let near := latest.getD 1 0
  let far := latest.getD 14 0
  (rotate near 17 ^^^ rotate near 19 ^^^ (near >>> 10)) + latest.getD 6 0 +
    (rotate far 7 ^^^ rotate far 18 ^^^ (far >>> 3)) + latest.getD 15 0

/-- The words of a schedule, latest first, with as many words more as asked for. -/
def extend : Nat → List UInt32 → List UInt32
  | 0, latest => latest
  | count + 1, latest => extend count (nextWord latest :: latest)

/-- The state after a block of sixteen words. -/
def Digest.block (state : Digest) (words : List UInt32) : Digest :=
  let schedule := (extend 48 words.reverse).reverse
  state.add ((roundConstants.zip schedule).foldl
    (fun current pair => current.round pair.1 pair.2) state)

/-- The state after a number of blocks at the front of the words. -/
def Digest.blocks : (count : Nat) → List UInt32 → Digest → Digest
  | 0, _, state => state
  | count + 1, words, state => Digest.blocks count (words.drop 16) (state.block (words.take 16))

/-- The bytes of a number, the most significant first. -/
def bigEndian : (count : Nat) → Nat → Bytes
  | 0, _ => []
  | count + 1, value => UInt8.ofNat (value / Nat.pow 256 count) :: bigEndian count value

def words : Bytes → List UInt32
  | a :: b :: c :: d :: rest =>
      ((a.toUInt32 <<< 24) ||| (b.toUInt32 <<< 16) ||| (c.toUInt32 <<< 8) ||| d.toUInt32) ::
        words rest
  | _ => []

/-- A message with a one bit, as few zero bits as complete its blocks, and its length in bits. -/
def padded (message : Bytes) : Bytes :=
  let zeros := (119 - message.length % 64) % 64
  message ++ [0x80] ++ List.replicate zeros 0 ++ bigEndian 8 (message.length * 8)

/-- The SHA-256 digest of a message. -/
def digest (message : Bytes) : Digest :=
  let bytes := padded message
  Digest.blocks (bytes.length / 64) (words bytes) start

def Digest.toList (state : Digest) : List UInt32 :=
  [state.a, state.b, state.c, state.d, state.e, state.f, state.g, state.h]

end Checksum

/-- The checksum by which the content of a source is identified. -/
def checksumOf (content : Bytes) : String :=
  (Checksum.digest content).toList.foldl
    (fun text word => text ++ String.ofList (Text.hexDigits 8 word.toNat)) "sha256:"

end DecisionTables
