import MeteredRelay.Bytes.Chunks
import MeteredRelay.Cipher.Keccak
import MeteredRelay.Cipher.MlKem.Ring

/-!
# Polynomials as bytes

A polynomial whose coefficients have `d` bits is written in `32 * d` bytes, eight coefficients to
`d` bytes.  Coefficients are rounded to fewer bits before they are sent (`compress`) and spread
again afterwards (`decompress`).  Random polynomials are read off a stream of bytes: uniform ones by
dropping what is not below the modulus, small ones by subtracting two counts of bits.
-/

namespace MeteredRelay.MlKem

/-- Numbers below `2 ^ d` packed into one, first number lowest. -/
def packed (d : Nat) (ns : List Nat) : Nat := ns.foldr (fun a acc => a % (1 <<< d) + acc <<< d) 0

/-- The first `k` numbers of `d` bits in a packed one. -/
def unpacked (d : Nat) : (k n : Nat) → List Nat
  | 0, _ => []
  | k + 1, n => n % (1 <<< d) :: unpacked d k (n >>> d)

/-- Groups of eight, of which there are `k`. -/
def groups : Nat → List Nat → List (List Nat)
  | 0, _ => []
  | k + 1, ns => ns.take 8 :: groups k (ns.drop 8)

/-- A polynomial with coefficients of `d` bits in `32 * d` bytes. -/
def encodePoly (d : Nat) (f : Poly) : Bytes :=
  (groups 32 f).flatMap fun g => Bytes.ofNatLE d (packed d g)

/-- The polynomial that `32 * d` bytes hold. -/
def decodePoly (d : Nat) (b : Bytes) : Poly :=
  (Bytes.chunks d b).flatMap fun c => unpacked d 8 (Bytes.toNatLE c)

/-- Each coefficient to the nearest multiple of `q / 2 ^ d`. -/
def compress (d : Nat) (f : Poly) : Poly := f.map fun a => ((2 * a) <<< d + q) / (2 * q) % (1 <<< d)

/-- Each number of `d` bits back to a coefficient. -/
def decompress (d : Nat) (f : Poly) : Poly := f.map fun y => (2 * q * y + 1 <<< d) >>> (d + 1)

/-- The numbers below the modulus in a stream, two numbers of twelve bits to three bytes. -/
def uniformOf : Bytes → List Nat
  | a :: b :: c :: r =>
    let x := a.toNat + 256 * (b.toNat % 16)
    let y := b.toNat / 16 + 16 * c.toNat
    let rest := uniformOf r
    let rest := if y < q then y :: rest else rest
    if x < q then x :: rest else rest
  | _ => []

/-- A uniform polynomial, split into pairs, drawn from a seed.  The stream is long enough but with
a chance below one in `2 ^ 200`; missing coefficients are zero. -/
def uniformPoly (seed : Bytes) : Poly :=
  let ns := (uniformOf (Keccak.shake128 seed 840)).take 256
  ns ++ List.replicate (256 - ns.length) 0

/-- The count of ones among the lowest two bits of `n`, less that among the next two. -/
def bitDifference (n : Nat) : Nat := (n % 2 + n / 2 % 2 + (q - n / 4 % 2 - n / 8 % 2)) % q

/-- A small polynomial drawn from a seed and a counter. -/
def smallPoly (seed : Bytes) (counter : Nat) : Poly :=
  (Keccak.shake256 (seed ++ [UInt8.ofNat counter]) 128).flatMap fun b =>
    [bitDifference b.toNat, bitDifference (b.toNat / 16)]

end MeteredRelay.MlKem
