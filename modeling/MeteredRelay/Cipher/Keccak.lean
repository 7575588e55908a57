import MeteredRelay.Bytes.Chunks

/-!
# Keccak and the hashes built from it

The state is a five by five square of 64-bit lanes, stirred by twenty-four rounds.  A message is
absorbed in pieces of `rate` bytes after a padding that begins with a mark of the function; output
is then squeezed piece by piece.  The two fixed-length hashes and the two extendable ones that key
encapsulation needs are instances of one sponge.
-/

namespace MeteredRelay.Keccak

/-- Twenty-five lanes; lane `x + 5 * y` stands in column `x` and row `y`. -/
abbrev Lanes := Vector UInt64 25

/-- The state before anything is absorbed. -/
def zero : Lanes := Vector.replicate 25 0

/-- By how much each lane is rotated. -/
def rotations : Vector UInt64 25 :=
  #v[0, 1, 62, 28, 27, 36, 44, 6, 55, 20, 3, 10, 43, 25, 39, 41, 45, 15, 21, 8, 18, 2, 61, 56, 14]

/-- What is added to the first lane in each round. -/
def roundConstants : List UInt64 :=
  [0x0000000000000001, 0x0000000000008082, 0x800000000000808a, 0x8000000080008000,
    0x000000000000808b, 0x0000000080000001, 0x8000000080008081, 0x8000000000008009,
    0x000000000000008a, 0x0000000000000088, 0x0000000080008009, 0x000000008000000a,
    0x000000008000808b, 0x800000000000008b, 0x8000000000008089, 0x8000000000008003,
    0x8000000000008002, 0x8000000000000080, 0x000000000000800a, 0x800000008000000a,
    0x8000000080008081, 0x8000000000008080, 0x0000000080000001, 0x8000000080008008]

/-- Rotation of a lane to the left by `k < 64` bits. -/
@[inline] def rotateLeft (x k : UInt64) : UInt64 :=
  if k == 0 then x else (x <<< k) ||| (x >>> (64 - k))

/-- Adds to each lane the parities of two neighbouring columns. -/
def theta (a : Lanes) : Lanes :=
  let c : Vector UInt64 5 := Vector.ofFn fun x : Fin 5 =>
    a[x.1] ^^^ a[x.1 + 5] ^^^ a[x.1 + 10] ^^^ a[x.1 + 15] ^^^ a[x.1 + 20]
  let d : Vector UInt64 5 := Vector.ofFn fun x : Fin 5 =>
    c.get ⟨(x.1 + 4) % 5, Nat.mod_lt _ (by decide)⟩ ^^^
      rotateLeft (c.get ⟨(x.1 + 1) % 5, Nat.mod_lt _ (by decide)⟩) 1
  Vector.ofFn fun i : Fin 25 => a[i] ^^^ d.get ⟨i.1 % 5, Nat.mod_lt _ (by decide)⟩

/-- Rotates every lane and moves it to its new place. -/
def rhoPi (a : Lanes) : Lanes :=
  Vector.ofFn fun i : Fin 25 =>
    let x := i.1 % 5
    let y := i.1 / 5
    let j := (x + 3 * y) % 5 + 5 * x
    have : j < 25 := by
      have h1 : x < 5 := Nat.mod_lt _ (by decide)
      have h2 : (x + 3 * y) % 5 < 5 := Nat.mod_lt _ (by decide)
      omega
    rotateLeft a[j] rotations[j]

/-- Combines each lane with the next two of its row, and adds the round's constant. -/
def chiIota (rc : UInt64) (b : Lanes) : Lanes :=
  Vector.ofFn fun i : Fin 25 =>
    let row := i.1 - i.1 % 5
    have hr : row + 5 ≤ 25 := by have := i.2; omega
    have h1 : row + (i.1 + 1) % 5 < 25 := by have := Nat.mod_lt (i.1 + 1) (show 0 < 5 by decide); omega
    have h2 : row + (i.1 + 2) % 5 < 25 := by have := Nat.mod_lt (i.1 + 2) (show 0 < 5 by decide); omega
    let v := b[i] ^^^ (~~~ b[row + (i.1 + 1) % 5] &&& b[row + (i.1 + 2) % 5])
    if i.1 = 0 then v ^^^ rc else v

/-- The twenty-four rounds. -/
def permute (a : Lanes) : Lanes :=
  roundConstants.foldl (fun a rc => chiIota rc (rhoPi (theta a))) a

/-- The state with a piece of at most two hundred bytes added to it, then stirred. -/
def absorb (a : Lanes) (piece : Bytes) : Lanes :=
  permute (Vector.ofFn fun i : Fin 25 =>
    a[i] ^^^ UInt64.ofNat (Bytes.toNatLE ((piece.drop (8 * i)).take 8)))

/-- A message with the padding behind it: the mark, zeros, and a last bit. -/
def padded (rate : Nat) (mark : UInt8) (m : Bytes) : Bytes :=
  let gap := rate - m.length % rate
  if gap ≤ 1 then m ++ [mark ||| 0x80]
  else m ++ (mark :: (List.replicate (gap - 2) 0 ++ [0x80]))

/-- The bytes of the state. -/
def bytesOf (a : Lanes) : Bytes := a.toList.flatMap fun x => Bytes.ofNatLE 8 x.toNat

/-- `n` pieces of output. -/
def squeeze (rate : Nat) : Nat → Lanes → Bytes
  | 0, _ => []
  | n + 1, a => (bytesOf a).take rate ++ squeeze rate n (permute a)

/-- The first `n` bytes of output for a message. -/
def sponge (rate : Nat) (mark : UInt8) (m : Bytes) (n : Nat) : Bytes :=
  let a := (Bytes.chunks rate (padded rate mark m)).foldl absorb zero
  (squeeze rate ((n + rate - 1) / rate) a).take n

/-- The hash of thirty-two bytes. -/
def sha3_256 (m : Bytes) : Bytes := sponge 136 0x06 m 32

/-- The hash of sixty-four bytes. -/
def sha3_512 (m : Bytes) : Bytes := sponge 72 0x06 m 64

/-- The extendable hash of the higher rate. -/
def shake128 (m : Bytes) (n : Nat) : Bytes := sponge 168 0x1f m n

/-- The extendable hash of the lower rate. -/
def shake256 (m : Bytes) (n : Nat) : Bytes := sponge 136 0x1f m n

end MeteredRelay.Keccak
