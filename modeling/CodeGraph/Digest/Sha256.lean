/-
This file computes the digest SHA-256: the message is padded to whole blocks of 64 bytes, and
each block is mixed into a state of eight 32-bit words. The digest is written as 64
hexadecimal digits.
-/

namespace CodeGraph.Digest

/-- The state of eight words that the blocks are mixed into. -/
structure State where
  a : UInt32
  b : UInt32
  c : UInt32
  d : UInt32
  e : UInt32
  f : UInt32
  g : UInt32
  h : UInt32
  deriving Repr, DecidableEq

/-- The state before the first block. -/
def State.initial : State :=
  ⟨0x6a09e667, 0xbb67ae85, 0x3c6ef372, 0xa54ff53a, 0x510e527f, 0x9b05688c, 0x1f83d9ab,
    0x5be0cd19⟩

/-- The constants of the 64 rounds. -/
def roundConstants : List UInt32 := [
  0x428a2f98, 0x71374491, 0xb5c0fbcf, 0xe9b5dba5, 0x3956c25b, 0x59f111f1, 0x923f82a4, 0xab1c5ed5,
  0xd807aa98, 0x12835b01, 0x243185be, 0x550c7dc3, 0x72be5d74, 0x80deb1fe, 0x9bdc06a7, 0xc19bf174,
  0xe49b69c1, 0xefbe4786, 0x0fc19dc6, 0x240ca1cc, 0x2de92c6f, 0x4a7484aa, 0x5cb0a9dc, 0x76f988da,
  0x983e5152, 0xa831c66d, 0xb00327c8, 0xbf597fc7, 0xc6e00bf3, 0xd5a79147, 0x06ca6351, 0x14292967,
  0x27b70a85, 0x2e1b2138, 0x4d2c6dfc, 0x53380d13, 0x650a7354, 0x766a0abb, 0x81c2c92e, 0x92722c85,
  0xa2bfe8a1, 0xa81a664b, 0xc24b8b70, 0xc76c51a3, 0xd192e819, 0xd6990624, 0xf40e3585, 0x106aa070,
  0x19a4c116, 0x1e376c08, 0x2748774c, 0x34b0bcb5, 0x391c0cb3, 0x4ed8aa4a, 0x5b9cca4f, 0x682e6ff3,
  0x748f82ee, 0x78a5636f, 0x84c87814, 0x8cc70208, 0x90befffa, 0xa4506ceb, 0xbef9a3f7, 0xc67178f2]

/-- A word rotated to the right. -/
def rotate (word : UInt32) (amount : UInt32) : UInt32 :=
  (word >>> amount) ||| (word <<< (32 - amount))

/-- The word that four bytes form, the first byte highest. -/
def wordOfBytes (b0 b1 b2 b3 : UInt8) : UInt32 :=
  (b0.toUInt32 <<< 24) ||| (b1.toUInt32 <<< 16) ||| (b2.toUInt32 <<< 8) ||| b3.toUInt32

/-- The four bytes of a word, the highest first. -/
def bytesOfWord (word : UInt32) : List UInt8 :=
  [(word >>> 24).toUInt8, (word >>> 16).toUInt8, (word >>> 8).toUInt8, word.toUInt8]

/-- The words that a list of bytes forms, four bytes a word. -/
def wordsOfBytes : List UInt8 → List UInt32
  | b0 :: b1 :: b2 :: b3 :: rest => wordOfBytes b0 b1 b2 b3 :: wordsOfBytes rest
  | _ => []

/-- One more word of a schedule, from the words before it. -/
def nextScheduleWord (words : Array UInt32) : UInt32 :=
  let back := fun distance => words.getD (words.size - distance) 0
  let s0 := rotate (back 15) 7 ^^^ rotate (back 15) 18 ^^^ (back 15 >>> 3)
  let s1 := rotate (back 2) 17 ^^^ rotate (back 2) 19 ^^^ (back 2 >>> 10)
  back 16 + s0 + back 7 + s1

/-- The 64 words that the rounds use, from the sixteen words of a block. -/
def schedule (block : List UInt32) : List UInt32 :=
  ((List.range 48).foldl (fun words _ => words.push (nextScheduleWord words))
    block.toArray).toList

/-- One round. -/
def State.round (state : State) (constantAndWord : UInt32 × UInt32) : State :=
  let s1 := rotate state.e 6 ^^^ rotate state.e 11 ^^^ rotate state.e 25
  let choice := (state.e &&& state.f) ^^^ ((~~~state.e) &&& state.g)
  let t1 := state.h + s1 + choice + constantAndWord.1 + constantAndWord.2
  let s0 := rotate state.a 2 ^^^ rotate state.a 13 ^^^ rotate state.a 22
  let majority := (state.a &&& state.b) ^^^ (state.a &&& state.c) ^^^ (state.b &&& state.c)
  ⟨t1 + s0 + majority, state.a, state.b, state.c, state.d + t1, state.e, state.f, state.g⟩

/-- The sum of two states, word by word. -/
def State.add (left right : State) : State :=
  ⟨left.a + right.a, left.b + right.b, left.c + right.c, left.d + right.d, left.e + right.e,
    left.f + right.f, left.g + right.g, left.h + right.h⟩

/-- Mixes one block of 64 bytes into the state. -/
def State.absorb (state : State) (block : List UInt8) : State :=
  ((roundConstants.zip (schedule (wordsOfBytes block))).foldl State.round state).add state

/-- The bytes that fill a message of the given length up to whole blocks: a one bit, zeros,
and the length in bits as eight bytes. -/
def padding (length : Nat) : List UInt8 :=
  let zeros := (119 - length % 64) % 64
  0x80 :: List.replicate zeros 0
    ++ (List.range 8).map fun index => UInt8.ofNat (length * 8 / Nat.pow 256 (7 - index))

/-- The blocks of 64 bytes of a padded message. -/
def blocks (count : Nat) (bytes : List UInt8) : List (List UInt8) :=
  match count with
  | 0 => []
  | count + 1 => bytes.take 64 :: blocks count (bytes.drop 64)

/-- The SHA-256 digest of a message, as 32 bytes. -/
def sha256 (message : List UInt8) : List UInt8 :=
  let padded := message ++ padding message.length
  let final := (blocks (padded.length / 64) padded).foldl State.absorb State.initial
  [final.a, final.b, final.c, final.d, final.e, final.f, final.g, final.h].flatMap bytesOfWord

/-- The hexadecimal digit of a number below sixteen. -/
def hexDigit (value : Nat) : Char :=
  if value < 10 then Char.ofNat ('0'.toNat + value) else Char.ofNat ('a'.toNat + (value - 10))

/-- Bytes in hexadecimal digits, two digits a byte. -/
def hexadecimal (bytes : List UInt8) : String :=
  String.ofList (bytes.flatMap fun byte =>
    [hexDigit (byte.toNat / 16), hexDigit (byte.toNat % 16)])

end CodeGraph.Digest
