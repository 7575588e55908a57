import MeteredRelay.Bytes.Chunks
import MeteredRelay.Cipher.ChaCha20

/-!
# Keyed BLAKE3 of short inputs

Session ids are keyed BLAKE3 hashes of sixty-eight bytes.  An input of at most one chunk, 1024
bytes, is hashed block by block of sixty-four bytes: each block and the chaining value so far, at
first the key, are compressed in seven rounds, between which the message words are permuted.
-/

namespace MeteredRelay.Blake3

/-- Sixteen message words. -/
abbrev Message := Vector UInt32 16

/-- The eight words that chain one block to the next. -/
abbrev Chain := Vector UInt32 8

/-- The constants of the compression. -/
def iv : Chain :=
  #v[0x6a09e667, 0xbb67ae85, 0x3c6ef372, 0xa54ff53a, 0x510e527f, 0x9b05688c, 0x1f83d9ab, 0x5be0cd19]

/-- Where each message word of the next round comes from. -/
def permutation : Vector (Fin 16) 16 := #v[2, 6, 3, 10, 7, 0, 4, 13, 1, 11, 12, 5, 9, 14, 15, 8]

/-- The message words of the next round. -/
def permute (m : Message) : Message := permutation.map (m[·])

/-- The mark of the first block of a chunk. -/
def chunkStart : UInt32 := 1

/-- The mark of the last block of a chunk. -/
def chunkEnd : UInt32 := 2

/-- The mark of the compression that gives the hash. -/
def root : UInt32 := 8

/-- The mark of every compression of a keyed hash. -/
def keyedHash : UInt32 := 16

/-- Rotation of a word to the right by `k` bits, `0 < k < 32`. -/
@[inline] def rotateRight (x k : UInt32) : UInt32 := ChaCha20.rotateLeft x (32 - k)

/-- Four words and two message words stirred into one another. -/
@[inline] def mix (a b c d x y : UInt32) : UInt32 × UInt32 × UInt32 × UInt32 :=
  let a := a + b + x
  let d := rotateRight (d ^^^ a) 16
  let c := c + d
  let b := rotateRight (b ^^^ c) 12
  let a := a + b + y
  let d := rotateRight (d ^^^ a) 8
  let c := c + d
  let b := rotateRight (b ^^^ c) 7
  (a, b, c, d)

/-- A round on the columns and the diagonals. -/
def round (w : ChaCha20.Words) (m : Message) : ChaCha20.Words :=
  let ⟨x0, x1, x2, x3, x4, x5, x6, x7, x8, x9, x10, x11, x12, x13, x14, x15⟩ := w
  let word (i : Nat) : UInt32 := m.toArray.getD i 0
  let (x0, x4, x8, x12) := mix x0 x4 x8 x12 (word 0) (word 1)
  let (x1, x5, x9, x13) := mix x1 x5 x9 x13 (word 2) (word 3)
  let (x2, x6, x10, x14) := mix x2 x6 x10 x14 (word 4) (word 5)
  let (x3, x7, x11, x15) := mix x3 x7 x11 x15 (word 6) (word 7)
  let (x0, x5, x10, x15) := mix x0 x5 x10 x15 (word 8) (word 9)
  let (x1, x6, x11, x12) := mix x1 x6 x11 x12 (word 10) (word 11)
  let (x2, x7, x8, x13) := mix x2 x7 x8 x13 (word 12) (word 13)
  let (x3, x4, x9, x14) := mix x3 x4 x9 x14 (word 14) (word 15)
  ⟨x0, x1, x2, x3, x4, x5, x6, x7, x8, x9, x10, x11, x12, x13, x14, x15⟩

/-- `k` rounds. -/
def rounds : Nat → ChaCha20.Words → Message → ChaCha20.Words
  | 0, w, _ => w
  | k + 1, w, m => rounds k (round w m) (permute m)

/-- The chaining value after a block of `size` bytes of the first chunk. -/
def compress (h : Chain) (m : Message) (size : Nat) (marks : UInt32) : Chain :=
  let w := rounds 7
    ⟨h[0], h[1], h[2], h[3], h[4], h[5], h[6], h[7], iv[0], iv[1], iv[2], iv[3], 0, 0,
      UInt32.ofNat size, marks⟩ m
  #v[w.x0 ^^^ w.x8, w.x1 ^^^ w.x9, w.x2 ^^^ w.x10, w.x3 ^^^ w.x11, w.x4 ^^^ w.x12, w.x5 ^^^ w.x13,
    w.x6 ^^^ w.x14, w.x7 ^^^ w.x15]

/-- The message words of a block, filled up with zeros. -/
def messageOf (block : Bytes) : Message := Vector.ofFn fun i => ChaCha20.wordAt block i

/-- The chaining value after the given blocks; the last one ends the chunk and the whole hash. -/
def absorb (h : Chain) (marks : UInt32) : List Bytes → Chain
  | [] => h
  | [b] => compress h (messageOf b) b.length (marks ||| chunkEnd ||| root ||| keyedHash)
  | b :: r => absorb (compress h (messageOf b) b.length (marks ||| keyedHash)) 0 r

/-- The blocks of an input; the empty input is one empty block. -/
def blocks (input : Bytes) : List Bytes := if input.isEmpty then [[]] else Bytes.chunks 64 input

/-- The keyed hash of an input of at most 1024 bytes. -/
def keyed (key : Octets 32) (input : Bytes) : Octets 32 :=
  let h := absorb (Vector.ofFn fun i => ChaCha20.wordAt key.1 i) chunkStart (blocks input)
  ⟨[h[0], h[1], h[2], h[3], h[4], h[5], h[6], h[7]].flatMap ChaCha20.wordBytes, rfl⟩

end MeteredRelay.Blake3
