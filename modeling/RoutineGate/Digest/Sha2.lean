/-!
# Digests

The digests of a family that works on words of 32 or of 64 bits.  A message is padded to
blocks of sixteen words, and each block is mixed into eight words by as many rounds as
there are words to add.
-/

namespace RoutineGate
namespace Digest

/-- What sets the digests of one word size apart. -/
structure Variant where
  /-- The number of bytes of a word. -/
  wordBytes : Nat
  /-- The words that the rounds add. -/
  roundWords : List (BitVec (8 * wordBytes))
  /-- By how much a round turns its fifth word. -/
  high : List Nat
  /-- By how much a round turns its first word. -/
  low : List Nat
  /-- By how much the words of the message are turned, and at last shifted. -/
  second : List Nat × Nat
  last : List Nat × Nat

namespace Variant

/-- The number of bytes of a block. -/
def blockBytes (variant : Variant) : Nat := 16 * variant.wordBytes

abbrev Word (variant : Variant) : Type := BitVec (8 * variant.wordBytes)

/-- Words of 32 bits. -/
def short : Variant where
  wordBytes := 4
  high := [6, 11, 25]
  low := [2, 13, 22]
  second := ([7, 18], 3)
  last := ([17, 19], 10)
  roundWords :=
    [0x428a2f98, 0x71374491, 0xb5c0fbcf, 0xe9b5dba5, 0x3956c25b, 0x59f111f1, 0x923f82a4, 0xab1c5ed5,
     0xd807aa98, 0x12835b01, 0x243185be, 0x550c7dc3, 0x72be5d74, 0x80deb1fe, 0x9bdc06a7, 0xc19bf174,
     0xe49b69c1, 0xefbe4786, 0x0fc19dc6, 0x240ca1cc, 0x2de92c6f, 0x4a7484aa, 0x5cb0a9dc, 0x76f988da,
     0x983e5152, 0xa831c66d, 0xb00327c8, 0xbf597fc7, 0xc6e00bf3, 0xd5a79147, 0x06ca6351, 0x14292967,
     0x27b70a85, 0x2e1b2138, 0x4d2c6dfc, 0x53380d13, 0x650a7354, 0x766a0abb, 0x81c2c92e, 0x92722c85,
     0xa2bfe8a1, 0xa81a664b, 0xc24b8b70, 0xc76c51a3, 0xd192e819, 0xd6990624, 0xf40e3585, 0x106aa070,
     0x19a4c116, 0x1e376c08, 0x2748774c, 0x34b0bcb5, 0x391c0cb3, 0x4ed8aa4a, 0x5b9cca4f, 0x682e6ff3,
     0x748f82ee, 0x78a5636f, 0x84c87814, 0x8cc70208, 0x90befffa, 0xa4506ceb, 0xbef9a3f7, 0xc67178f2]

/-- Words of 64 bits. -/
def long : Variant where
  wordBytes := 8
  high := [14, 18, 41]
  low := [28, 34, 39]
  second := ([1, 8], 7)
  last := ([19, 61], 6)
  roundWords :=
    [0x428a2f98d728ae22, 0x7137449123ef65cd, 0xb5c0fbcfec4d3b2f, 0xe9b5dba58189dbbc,
     0x3956c25bf348b538, 0x59f111f1b605d019, 0x923f82a4af194f9b, 0xab1c5ed5da6d8118,
     0xd807aa98a3030242, 0x12835b0145706fbe, 0x243185be4ee4b28c, 0x550c7dc3d5ffb4e2,
     0x72be5d74f27b896f, 0x80deb1fe3b1696b1, 0x9bdc06a725c71235, 0xc19bf174cf692694,
     0xe49b69c19ef14ad2, 0xefbe4786384f25e3, 0x0fc19dc68b8cd5b5, 0x240ca1cc77ac9c65,
     0x2de92c6f592b0275, 0x4a7484aa6ea6e483, 0x5cb0a9dcbd41fbd4, 0x76f988da831153b5,
     0x983e5152ee66dfab, 0xa831c66d2db43210, 0xb00327c898fb213f, 0xbf597fc7beef0ee4,
     0xc6e00bf33da88fc2, 0xd5a79147930aa725, 0x06ca6351e003826f, 0x142929670a0e6e70,
     0x27b70a8546d22ffc, 0x2e1b21385c26c926, 0x4d2c6dfc5ac42aed, 0x53380d139d95b3df,
     0x650a73548baf63de, 0x766a0abb3c77b2a8, 0x81c2c92e47edaee6, 0x92722c851482353b,
     0xa2bfe8a14cf10364, 0xa81a664bbc423001, 0xc24b8b70d0f89791, 0xc76c51a30654be30,
     0xd192e819d6ef5218, 0xd69906245565a910, 0xf40e35855771202a, 0x106aa07032bbd1b8,
     0x19a4c116b8d2d0c8, 0x1e376c085141ab53, 0x2748774cdf8eeb99, 0x34b0bcb5e19b48a8,
     0x391c0cb3c5c95a63, 0x4ed8aa4ae3418acb, 0x5b9cca4f7763e373, 0x682e6ff3d6b2b8a3,
     0x748f82ee5defb2fc, 0x78a5636f43172f60, 0x84c87814a1f0ab72, 0x8cc702081a6439ec,
     0x90befffa23631e28, 0xa4506cebde82bde9, 0xbef9a3f7b2c67915, 0xc67178f2e372532b,
     0xca273eceea26619c, 0xd186b8c721c0c207, 0xeada7dd6cde0eb1e, 0xf57d4f7fee6ed178,
     0x06f067aa72176fba, 0x0a637dc5a2c898a6, 0x113f9804bef90dae, 0x1b710b35131c471b,
     0x28db77f523047d84, 0x32caab7b40c72493, 0x3c9ebe0a15c9bebc, 0x431d67c49c100d4c,
     0x4cc5d4becb3e42b6, 0x597f299cfc657e2a, 0x5fcb6fab3ad6faec, 0x6c44198c4a475817]

end Variant

/-- The eight words that blocks are mixed into. -/
structure State (variant : Variant) where
  (a b c d e f g h : variant.Word)

section Mixing

variable {variant : Variant}

/-- The exclusive sum of a word turned to the right by several distances. -/
def turned (distances : List Nat) (word : variant.Word) : variant.Word :=
  distances.foldl (fun sum distance => sum ^^^ word.rotateRight distance) 0

/-- The words of a state in order. -/
def State.words (state : State variant) : List variant.Word :=
  [state.a, state.b, state.c, state.d, state.e, state.f, state.g, state.h]

/-- Adds two states word by word. -/
def State.add (left right : State variant) : State variant :=
  ⟨left.a + right.a, left.b + right.b, left.c + right.c, left.d + right.d, left.e + right.e,
    left.f + right.f, left.g + right.g, left.h + right.h⟩

/-- Mixes in the sum of a word of the message and the word of a round. -/
def State.round (state : State variant) (word : variant.Word) : State variant :=
  let choice := (state.e &&& state.f) ^^^ (~~~state.e &&& state.g)
  let first := state.h + turned variant.high state.e + choice + word
  let majority := (state.a &&& state.b) ^^^ (state.a &&& state.c) ^^^ (state.b &&& state.c)
  ⟨first + (turned variant.low state.a + majority), state.a, state.b, state.c, state.d + first,
    state.e, state.f, state.g⟩

/-- The next word of the message from the sixteen words before it. -/
def nextWord (window : List variant.Word) : variant.Word :=
  let spread (distances : List Nat × Nat) (word : variant.Word) : variant.Word :=
    turned distances.1 word ^^^ (word >>> distances.2)
  window.getD 0 0 + spread variant.second (window.getD 1 0) + window.getD 9 0 +
    spread variant.last (window.getD 14 0)

/-- Runs the rounds on the sixteen words of a block. -/
def runRounds : List variant.Word → State variant → List variant.Word → State variant
  | [], state, _ => state
  | roundWord :: rounds, state, window =>
      runRounds rounds (state.round (window.headD 0 + roundWord))
        (window.tail ++ [nextWord window])

/-- Mixes in blocks of sixteen words, so many at most. -/
def mixBlocks : Nat → State variant → List variant.Word → State variant
  | 0, state, _ => state
  | count + 1, state, words =>
      mixBlocks count (state.add (runRounds variant.roundWords state (words.take 16)))
        (words.drop 16)

end Mixing

/-- The bytes of a number, so many, the highest first. -/
def bytesOfNat (count number : Nat) : List UInt8 :=
  (List.range count).map fun index => UInt8.ofNat (number >>> (8 * (count - 1 - index)))

@[simp] theorem length_bytesOfNat (count number : Nat) :
    (bytesOfNat count number).length = count := by
  simp [bytesOfNat]

/-- The words that bytes write, so many at most. -/
def toWords (variant : Variant) : Nat → List UInt8 → List variant.Word
  | 0, _ => []
  | count + 1, bytes =>
      BitVec.ofNat _ ((bytes.take variant.wordBytes).foldl
          (fun number byte => number * 256 + byte.toNat) 0) ::
        toWords variant count (bytes.drop variant.wordBytes)

/-- A message with a mark, zeros and its length in bits, in whole blocks. -/
def pad (variant : Variant) (message : List UInt8) : List UInt8 :=
  let lengthBytes := 2 * variant.wordBytes
  let filled := message.length + 1 + lengthBytes
  message ++ 0x80 ::
    List.replicate ((variant.blockBytes - filled % variant.blockBytes) % variant.blockBytes) 0 ++
    bytesOfNat lengthBytes (8 * message.length)

/-- The padded message has a whole number of blocks. -/
theorem length_pad (message : List UInt8) :
    (pad .short message).length % 64 = 0 ∧ (pad .long message).length % 128 = 0 := by
  simp only [pad, Variant.blockBytes, Variant.short, Variant.long, List.length_append,
    List.length_cons, List.length_replicate, length_bytesOfNat]
  omega

/-- The digest of a message from the words before the first block. -/
def digest {variant : Variant} (start : State variant) (message : List UInt8) : List UInt8 :=
  let padded := pad variant message
  let words := toWords variant (padded.length / variant.wordBytes) padded
  (mixBlocks (words.length / 16) start words).words.flatMap fun word =>
    bytesOfNat variant.wordBytes word.toNat

/-- A digest has the bytes of eight words. -/
theorem length_digest {variant : Variant} (start : State variant) (message : List UInt8) :
    (digest start message).length = 8 * variant.wordBytes := by
  simp [digest, State.words]
  omega

/-- The words before the first block of the digest of 32 bytes. -/
def start256 : State .short :=
  ⟨0x6a09e667, 0xbb67ae85, 0x3c6ef372, 0xa54ff53a, 0x510e527f, 0x9b05688c, 0x1f83d9ab, 0x5be0cd19⟩

/-- The words before the first block of the digest of 48 bytes. -/
def start384 : State .long :=
  ⟨0xcbbb9d5dc1059ed8, 0x629a292a367cd507, 0x9159015a3070dd17, 0x152fecd8f70e5939,
    0x67332667ffc00b31, 0x8eb44a8768581511, 0xdb0c2e0d64f98fa7, 0x47b5481dbefa4fa4⟩

/-- The words before the first block of the digest of 64 bytes. -/
def start512 : State .long :=
  ⟨0x6a09e667f3bcc908, 0xbb67ae8584caa73b, 0x3c6ef372fe94f82b, 0xa54ff53a5f1d36f1,
    0x510e527fade682d1, 0x9b05688c2b3e6c1f, 0x1f83d9abfb41bd6b, 0x5be0cd19137e2179⟩

/-- The digest of 32 bytes of a message. -/
def sha256 (message : List UInt8) : List UInt8 := digest start256 message

/-- The digest of 48 bytes of a message: two words of the last state are left out. -/
def sha384 (message : List UInt8) : List UInt8 := (digest start384 message).take 48

/-- The digest of 64 bytes of a message. -/
def sha512 (message : List UInt8) : List UInt8 := digest start512 message

/-- A key as one block of so many bytes; a longer one is digested first. -/
def keyBlock (hash : List UInt8 → List UInt8) (blockBytes : Nat) (key : List UInt8) :
    List UInt8 :=
  let short := if blockBytes < key.length then hash key else key
  short ++ List.replicate (blockBytes - short.length) 0

/-- The code of a message, by a digest, that only who has the key can make. -/
def hmac (hash : List UInt8 → List UInt8) (blockBytes : Nat) (key message : List UInt8) :
    List UInt8 :=
  let block := keyBlock hash blockBytes key
  hash (block.map (· ^^^ 0x5c) ++ hash (block.map (· ^^^ 0x36) ++ message))

/-- The hexadecimal digits of bytes. -/
def hexDigits (bytes : List UInt8) : String :=
  String.ofList <| bytes.flatMap fun byte =>
    [Nat.digitChar (byte.toNat / 16), Nat.digitChar (byte.toNat % 16)]

end Digest
end RoutineGate
