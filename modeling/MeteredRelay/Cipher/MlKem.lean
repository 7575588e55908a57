import MeteredRelay.Cipher.MlKem.Encoding

/-!
# ML-KEM-768

Key encapsulation with three polynomials a vector.  A key pair is made from two seeds of thirty-two
bytes.  Whoever has the public key encapsulates: a message of thirty-two bytes, encrypted under the
public key with coins that are a hash of the message, stands for a shared key.  Whoever has the
secret key decapsulates: the message is decrypted and encrypted again, and where that does not give
the same cipher text, a key that nobody can predict is returned instead of an error.
-/

namespace MeteredRelay.MlKem

/-- The polynomials of a vector. -/
def rank : Nat := 3

/-- The bytes of a public key. -/
def publicSize : Nat := 1184

/-- The bytes of a secret key. -/
def secretSize : Nat := 2400

/-- The bytes of an encapsulation. -/
def ciphertextSize : Nat := 1088

/-- Entry `i`, `j` of the public matrix. -/
def entry (seed : Bytes) (i j : Nat) : Poly := uniformPoly (seed ++ [UInt8.ofNat j, UInt8.ofNat i])

/-- The polynomials of a vector, each in 384 bytes. -/
def decodeVector (b : Bytes) : List Poly := ((Bytes.chunks 384 b).take rank).map (decodePoly 12)

/-- The secret vector and the public key of a seed. -/
def keyPairOf (seed : Bytes) : Bytes × Bytes :=
  let g := Keccak.sha3_512 (seed ++ [UInt8.ofNat rank])
  let rho := g.take 32
  let sigma := g.drop 32
  let s := (List.range rank).map fun i => ntt (smallPoly sigma i)
  let e := (List.range rank).map fun i => ntt (smallPoly sigma (rank + i))
  let t := (List.range rank).zipWith
    (fun i ei => Poly.add (dot ((List.range rank).map (entry rho i)) s) ei) e
  (s.flatMap (encodePoly 12), t.flatMap (encodePoly 12) ++ rho)

/-- The encryption of a message of thirty-two bytes under a public key with the given coins. -/
def encrypt (pk message coins : Bytes) : Bytes :=
  let t := decodeVector pk
  let rho := pk.drop (384 * rank)
  let y := (List.range rank).map fun i => ntt (smallPoly coins i)
  let u := (List.range rank).map fun i =>
    Poly.add (inverseNtt (dot ((List.range rank).map fun j => entry rho j i) y))
      (smallPoly coins (rank + i))
  let v := Poly.add (Poly.add (inverseNtt (dot t y)) (smallPoly coins (2 * rank)))
    (decompress 1 (decodePoly 1 message))
  u.flatMap (fun f => encodePoly 10 (compress 10 f)) ++ encodePoly 4 (compress 4 v)

/-- The message behind a cipher text, given the secret vector. -/
def decrypt (secret ciphertext : Bytes) : Bytes :=
  let u := ((Bytes.chunks 320 ciphertext).take rank).map fun c => decompress 10 (decodePoly 10 c)
  let v := decompress 4 (decodePoly 4 (ciphertext.drop (320 * rank)))
  let w := Poly.sub v (inverseNtt (dot (decodeVector secret) (u.map ntt)))
  encodePoly 1 (compress 1 w)

/-- The secret key and the public key of two seeds: the secret vector, the public key, its hash and
the second seed make up the secret key. -/
def keygen (d z : Bytes) : Bytes × Bytes :=
  let (s, pk) := keyPairOf d
  (s ++ (pk ++ (Keccak.sha3_256 pk ++ z)), pk)

/-- A shared key for a message of thirty-two random bytes, and its encapsulation. -/
def encapsulate (pk message : Bytes) : Bytes × Bytes :=
  let g := Keccak.sha3_512 (message ++ Keccak.sha3_256 pk)
  (g.take 32, encrypt pk message (g.drop 32))

/-- The shared key of an encapsulation, or an unpredictable one if it is not genuine. -/
def decapsulate (sk ciphertext : Bytes) : Bytes :=
  let secret := sk.take (384 * rank)
  let pk := (sk.drop (384 * rank)).take publicSize
  let h := (sk.drop (384 * rank + publicSize)).take 32
  let z := (sk.drop (384 * rank + publicSize + 32)).take 32
  let message := decrypt secret ciphertext
  let g := Keccak.sha3_512 (message ++ h)
  if encrypt pk message (g.drop 32) == ciphertext then g.take 32
  else Keccak.shake256 (z ++ ciphertext) 32

end MeteredRelay.MlKem
