import MeteredRelay.Bytes.Chunks
import MeteredRelay.Cipher.Key

/-!
# The Poly1305 authenticator

A message is cut into pieces of sixteen bytes, each read as a number with one more bit set above
its last byte; the pieces are the coefficients of a polynomial, evaluated modulo `2 ^ 130 - 5` at
a secret point.  A second secret is added to the value modulo `2 ^ 128`.
-/

namespace MeteredRelay.Poly1305

/-- The modulus. -/
def modulus : Nat := (1 <<< 130) - 5

/-- The secret point: the first half of a one-time key with twenty-two of its bits cleared. -/
def clamp (n : Nat) : Nat := n &&& 0x0ffffffc0ffffffc0ffffffc0fffffff

/-- A piece as a number, with a bit set above its last byte. -/
def coefficient (b : Bytes) : Nat := Bytes.toNatLE b + 1 <<< (8 * b.length)

/-- The polynomial with the given coefficients at `r`. -/
def evaluate (r : Nat) (pieces : List Bytes) : Nat :=
  pieces.foldl (fun acc b => (acc + coefficient b) * r % modulus) 0

/-- The tag of a message under a one-time key of thirty-two bytes. -/
def tag (key : Bytes) (message : Bytes) : Tag :=
  let r := clamp (Bytes.toNatLE (key.take 16))
  let s := Bytes.toNatLE ((key.drop 16).take 16)
  ⟨Bytes.ofNatLE 16 (evaluate r (Bytes.chunks 16 message) + s), Bytes.length_ofNatLE 16 _⟩

end MeteredRelay.Poly1305
