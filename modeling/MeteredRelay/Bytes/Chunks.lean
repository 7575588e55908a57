import MeteredRelay.Bytes

/-!
# Byte strings in pieces

Ciphers and hashes work on blocks: `Bytes.chunks n b` cuts `b` into pieces of `n` bytes, the last
one possibly shorter.
-/

namespace MeteredRelay.Bytes

/-- The first `k` pieces of `n` bytes. -/
def firstChunks (n : Nat) : Nat → Bytes → List Bytes
  | 0, _ => []
  | k + 1, b => b.take n :: firstChunks n k (b.drop n)

/-- Pieces of `n` bytes, the last one possibly shorter; none of them is empty. -/
def chunks (n : Nat) (b : Bytes) : List Bytes := firstChunks n ((b.length + n - 1) / n) b

theorem flatten_firstChunks (n k : Nat) (b : Bytes) : (firstChunks n k b).flatten = b.take (n * k) := by
  induction k generalizing b with
  | zero => simp [firstChunks]
  | succ k ih =>
    rw [firstChunks, List.flatten_cons, ih, Nat.mul_succ, Nat.add_comm, List.take_add]

/-- The pieces make up the whole again. -/
theorem flatten_chunks {n : Nat} (h : 0 < n) (b : Bytes) : (chunks n b).flatten = b := by
  rw [chunks, flatten_firstChunks, List.take_of_length_le]
  have h1 := Nat.div_add_mod (b.length + n - 1) n
  have h2 := Nat.mod_lt (b.length + n - 1) h
  omega

/-- `b` filled up with zeros to a multiple of `n` bytes. -/
def padTo (n : Nat) (b : Bytes) : Bytes := b ++ List.replicate ((n - b.length % n) % n) 0

end MeteredRelay.Bytes
