/-!
# The ring of ML-KEM

Polynomials of degree below 256 with coefficients modulo 3329, as lists of 256 numbers.  The ring
splits: modulo a power of the root of unity 17 the polynomial falls apart into halves, and after
seven such steps into 128 pairs, which multiply pair by pair.  `ntt` follows the splitting down and
`inverseNtt` back up; node `k` of the tree has the children `2 * k` and `2 * k + 1`.
-/

namespace MeteredRelay.MlKem

/-- The modulus of the coefficients. -/
def q : Nat := 3329

/-- The coefficients, lowest first. -/
abbrev Poly := List Nat

namespace Poly

/-- The sums of the coefficients. -/
def add (f g : Poly) : Poly := List.zipWith (fun a b => (a + b) % q) f g

/-- The differences of the coefficients. -/
def sub (f g : Poly) : Poly := List.zipWith (fun a b => (a + (q - b % q)) % q) f g

/-- Every coefficient multiplied by `c`. -/
def scale (c : Nat) (f : Poly) : Poly := f.map fun a => c * a % q

/-- The zero polynomial. -/
def zero : Poly := List.replicate 256 0

end Poly

/-- The lowest seven bits of `k` in reverse order. -/
def reverseBits (k : Nat) : Nat :=
  (List.range 7).foldl (fun acc i => 2 * acc + k >>> i % 2) 0

/-- The powers of the root of unity in the order of the tree's nodes. -/
def roots : Array Nat := ((List.range 128).map fun k => Nat.pow 17 (reverseBits k) % q).toArray

/-- Their inverses. -/
def inverseRoots : Array Nat := ((List.range 128).map fun k => Nat.pow 17 (256 - reverseBits k) % q).toArray

/-- The roots modulo which the 128 pairs are multiplied. -/
def pairRoots : List Nat := (List.range 128).map fun k => Nat.pow 17 (2 * reverseBits k + 1) % q

/-- The parts of a polynomial below node `k`, `d` levels deep. -/
def nttBelow : (d k : Nat) → Poly → Poly
  | 0, _, f => f
  | d + 1, k, f =>
    let lo := f.take (1 <<< (d + 1))
    let hi := Poly.scale (roots.getD k 0) (f.drop (1 <<< (d + 1)))
    nttBelow d (2 * k) (Poly.add lo hi) ++ nttBelow d (2 * k + 1) (Poly.sub lo hi)

/-- A polynomial split into its 128 pairs. -/
def ntt (f : Poly) : Poly := nttBelow 7 1 f

/-- `2 ^ d` times the polynomial whose parts below node `k` are given. -/
def inverseBelow : (d k : Nat) → Poly → Poly
  | 0, _, f => f
  | d + 1, k, f =>
    let lo := inverseBelow d (2 * k) (f.take (1 <<< (d + 1)))
    let hi := inverseBelow d (2 * k + 1) (f.drop (1 <<< (d + 1)))
    Poly.add lo hi ++ Poly.scale (inverseRoots.getD k 0) (Poly.sub lo hi)

/-- The polynomial with the given pairs; 3303 is the inverse of 128. -/
def inverseNtt (f : Poly) : Poly := Poly.scale 3303 (inverseBelow 7 1 f)

/-- The products of pairs modulo the given roots. -/
def multiplyPairs : (roots f g : List Nat) → Poly
  | z :: zs, a :: b :: f, c :: d :: g =>
    (a * c + b * d % q * z) % q :: (a * d + b * c) % q :: multiplyPairs zs f g
  | _, _, _ => []

/-- The product of two polynomials that are split into pairs. -/
def multiply (f g : Poly) : Poly := multiplyPairs pairRoots f g

/-- The sum of the products of two lists of split polynomials. -/
def dot (fs gs : List Poly) : Poly := (List.zipWith multiply fs gs).foldl Poly.add Poly.zero

end MeteredRelay.MlKem
