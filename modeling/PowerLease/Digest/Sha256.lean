import PowerLease.Text.Utf8

/-!
# SHA-256

The digest under which tokens are stored (FIPS 180-4). The message is padded to whole blocks of
sixteen words; each block is stretched to sixty-four words and stirred into a state of eight. The
output is the state after the last block.

Words are kept newest first while a block is stretched, so the recurrence looks at fixed places of a
list: the words 16, 15, 7 and 2 steps back.
-/

namespace PowerLease.Sha256

/-- Rotates a word to the right by less than its width. -/
def rotate (x : UInt32) (n : UInt32) : UInt32 := (x >>> n) ||| (x <<< (32 - n))

/-- The constants of the rounds: the fractions of the cube roots of the first 64 primes. -/
def roundConstants : List UInt32 :=
  [0x428a2f98, 0x71374491, 0xb5c0fbcf, 0xe9b5dba5, 0x3956c25b, 0x59f111f1, 0x923f82a4, 0xab1c5ed5,
   0xd807aa98, 0x12835b01, 0x243185be, 0x550c7dc3, 0x72be5d74, 0x80deb1fe, 0x9bdc06a7, 0xc19bf174,
   0xe49b69c1, 0xefbe4786, 0x0fc19dc6, 0x240ca1cc, 0x2de92c6f, 0x4a7484aa, 0x5cb0a9dc, 0x76f988da,
   0x983e5152, 0xa831c66d, 0xb00327c8, 0xbf597fc7, 0xc6e00bf3, 0xd5a79147, 0x06ca6351, 0x14292967,
   0x27b70a85, 0x2e1b2138, 0x4d2c6dfc, 0x53380d13, 0x650a7354, 0x766a0abb, 0x81c2c92e, 0x92722c85,
   0xa2bfe8a1, 0xa81a664b, 0xc24b8b70, 0xc76c51a3, 0xd192e819, 0xd6990624, 0xf40e3585, 0x106aa070,
   0x19a4c116, 0x1e376c08, 0x2748774c, 0x34b0bcb5, 0x391c0cb3, 0x4ed8aa4a, 0x5b9cca4f, 0x682e6ff3,
   0x748f82ee, 0x78a5636f, 0x84c87814, 0x8cc70208, 0x90befffa, 0xa4506ceb, 0xbef9a3f7, 0xc67178f2]

/-- The eight words that blocks are stirred into. -/
structure State where
  a : UInt32
  b : UInt32
  c : UInt32
  d : UInt32
  e : UInt32
  f : UInt32
  g : UInt32
  h : UInt32

/-- The state before the first block: the fractions of the square roots of the first 8 primes. -/
def State.start : State :=
  ⟨0x6a09e667, 0xbb67ae85, 0x3c6ef372, 0xa54ff53a, 0x510e527f, 0x9b05688c, 0x1f83d9ab, 0x5be0cd19⟩

/-! ## Blocks -/

/-- A number as eight bytes, the highest first. -/
def lengthBytes (n : Nat) : List UInt8 :=
  [56, 48, 40, 32, 24, 16, 8, 0].map fun shift => UInt8.ofNat (n >>> shift)

/-- How many zeros stand between the end mark and the length. -/
def paddingZeros (size : Nat) : Nat := (64 - (size + 9) % 64) % 64

/-- The message with an end mark, zeros and its length in bits. -/
def pad (message : List UInt8) : List UInt8 :=
  message ++ 0x80 :: List.replicate (paddingZeros message.length) 0
    ++ lengthBytes (message.length * 8)

/-- Bytes as words, the highest byte first. -/
def words : List UInt8 → List UInt32
  | a :: b :: c :: d :: rest =>
    ((a.toUInt32 <<< 24) ||| (b.toUInt32 <<< 16) ||| (c.toUInt32 <<< 8) ||| d.toUInt32)
      :: words rest
  | _ => []

/-- The word that follows some words, which are given newest first. -/
def nextWord (newestFirst : List UInt32) : UInt32 :=
  let x := newestFirst.getD 14 0
  let y := newestFirst.getD 1 0
  newestFirst.getD 15 0 + (rotate x 7 ^^^ rotate x 18 ^^^ (x >>> 3)) + newestFirst.getD 6 0
    + (rotate y 17 ^^^ rotate y 19 ^^^ (y >>> 10))

/-- Puts more words in front of the words of a block. -/
def stretch : Nat → List UInt32 → List UInt32
  | 0, newestFirst => newestFirst
  | n + 1, newestFirst => stretch n (nextWord newestFirst :: newestFirst)

/-- One round. -/
def State.round (s : State) (constant word : UInt32) : State :=
  let t₁ := s.h + (rotate s.e 6 ^^^ rotate s.e 11 ^^^ rotate s.e 25)
    + ((s.e &&& s.f) ^^^ ((s.e ^^^ 0xffffffff) &&& s.g)) + constant + word
  let t₂ := (rotate s.a 2 ^^^ rotate s.a 13 ^^^ rotate s.a 22)
    + ((s.a &&& s.b) ^^^ (s.a &&& s.c) ^^^ (s.b &&& s.c))
  ⟨t₁ + t₂, s.a, s.b, s.c, s.d + t₁, s.e, s.f, s.g⟩

/-- The sum of two states, word by word. -/
def State.add (s t : State) : State :=
  ⟨s.a + t.a, s.b + t.b, s.c + t.c, s.d + t.d, s.e + t.e, s.f + t.f, s.g + t.g, s.h + t.h⟩

/-- Stirs a block into a state. -/
def State.stir (s : State) (block : List UInt32) : State :=
  let schedule := (stretch 48 block.reverse).reverse
  s.add ((roundConstants.zip schedule).foldl (fun t r => t.round r.1 r.2) s)

/-- Stirs words into a state, sixteen at a time. -/
def State.stirAll (s : State) (ws : List UInt32) : State :=
  match ws with
  | [] => s
  | w :: rest => (s.stir ((w :: rest).take 16)).stirAll (rest.drop 15)
termination_by ws.length
decreasing_by simp only [List.length_drop, List.length_cons]; omega

/-- A word as four bytes, the highest first. -/
def wordBytes (w : UInt32) : List UInt8 :=
  [(w >>> 24).toUInt8, (w >>> 16).toUInt8, (w >>> 8).toUInt8, w.toUInt8]

/-- The digest of a message. -/
def digest (message : List UInt8) : List UInt8 :=
  let s := State.start.stirAll (words (pad message))
  [s.a, s.b, s.c, s.d, s.e, s.f, s.g, s.h].flatMap wordBytes

/-- The digest of a text, in lower-case hexadecimal digits. -/
def hexDigest (text : String) : String := Text.hex (digest (Text.bytes text))

end PowerLease.Sha256
