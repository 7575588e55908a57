import MeteredRelay.Bytes
import MeteredRelay.Wire.PeerId

/-!
# Sets of members

A membership listing names the peers of a session as a compressed bitmap.  The set is cut into
blocks of 65536 numbers by the upper halves of the ids.  Behind a mark and the number of blocks
stand the upper half and the size of each block, then where each block's own bytes begin, and then
these bytes: the lower halves one by one where there are at most 4096, and a bit for each possible
one where there are more.  All numbers travel least significant byte first.

The ids are kept in ascending order, which is part of the type.
-/

namespace MeteredRelay

/-- A set of peers, in ascending order. -/
structure MemberSet where
  ids : List UInt32
  ascending : ids.Pairwise (· < ·)
deriving DecidableEq

namespace MemberSet

/-- Nobody. -/
def empty : MemberSet := ⟨[], .nil⟩

instance : Inhabited MemberSet := ⟨empty⟩

/-- Whether a peer is in the set. -/
def contains (s : MemberSet) (p : PeerId) : Bool := s.ids.contains p.value

/-- An ascending list with one more number. -/
def put (n : UInt32) : List UInt32 → List UInt32
  | [] => [n]
  | m :: r => if n < m then n :: m :: r else if n = m then m :: r else m :: put n r

theorem mem_put {n k : UInt32} {l : List UInt32} : k ∈ put n l ↔ k = n ∨ k ∈ l := by
  induction l with
  | nil => simp [put]
  | cons m r ih =>
    simp only [put]
    split
    · simp
    · split
      · rename_i h
        subst h
        simp
      · simp only [List.mem_cons, ih]
        grind

theorem ascending_put (n : UInt32) {l : List UInt32} (h : l.Pairwise (· < ·)) :
    (put n l).Pairwise (· < ·) := by
  induction l with
  | nil => simp [put]
  | cons m r ih =>
    rw [List.pairwise_cons] at h
    simp only [put]
    split
    · rename_i hn
      refine List.pairwise_cons.mpr ⟨fun k hk => ?_, List.pairwise_cons.mpr h⟩
      rcases List.mem_cons.mp hk with rfl | hk
      · exact hn
      · exact UInt32.lt_trans hn (h.1 k hk)
    · split
      · exact List.pairwise_cons.mpr h
      · rename_i hn hne
        refine List.pairwise_cons.mpr ⟨fun k hk => ?_, ih h.2⟩
        rcases mem_put.mp hk with rfl | hk
        · exact UInt32.lt_of_le_of_ne (UInt32.not_lt.mp hn) (fun e => hne e.symm)
        · exact h.1 k hk

/-- The set with one more peer. -/
def insert (s : MemberSet) (p : PeerId) : MemberSet :=
  ⟨put p.value s.ids, ascending_put p.value s.ascending⟩

/-- The set without a peer. -/
def erase (s : MemberSet) (p : PeerId) : MemberSet where
  ids := s.ids.filter (· ≠ p.value)
  ascending := s.ascending.filter _

/-! ## The compressed bitmap -/

/-- The mark of a compressed bitmap. -/
def mark : Nat := 12346

/-- The most members that a block lists one by one. -/
def listedLimit : Nat := 4096

/-- The bytes of a block that has a bit for each possible member. -/
def bitBlockSize : Nat := 8192

/-- Numbers cut into blocks by their upper halves: each block has an upper half and the lower halves
under it. -/
def blocksOf : List UInt32 → List (Nat × List Nat)
  | [] => []
  | n :: r =>
    match blocksOf r with
    | [] => [(n.toNat / 65536, [n.toNat % 65536])]
    | (upper, lowers) :: rest =>
      if upper = n.toNat / 65536 then (upper, n.toNat % 65536 :: lowers) :: rest
      else (n.toNat / 65536, [n.toNat % 65536]) :: (upper, lowers) :: rest

/-- The blocks of a set. -/
def blocks (s : MemberSet) : List (Nat × List Nat) := blocksOf s.ids

/-- The byte whose bits are the last three of the given numbers. -/
def bitsOf (lowers : List Nat) : UInt8 :=
  lowers.foldl (fun b n => b ||| (1 <<< UInt8.ofNat (n % 8))) 0

/-- A bit for each number from `8 * first` on, in `count` bytes. -/
def bitBytes : (count first : Nat) → List Nat → Bytes
  | 0, _, _ => []
  | count + 1, first, lowers =>
    bitsOf (lowers.takeWhile (· / 8 == first)) ::
      bitBytes count (first + 1) (lowers.dropWhile (· / 8 == first))

/-- The bytes of a block. -/
def blockBytes (lowers : List Nat) : Bytes :=
  if lowers.length ≤ listedLimit then lowers.flatMap (Bytes.ofNatLE 2)
  else bitBytes bitBlockSize 0 lowers

/-- How many bytes a block has. -/
def blockSize (lowers : List Nat) : Nat :=
  if lowers.length ≤ listedLimit then 2 * lowers.length else bitBlockSize

/-- Where each block's bytes begin, if the first begin at `at_`. -/
def offsets (at_ : Nat) : List (Nat × List Nat) → Bytes
  | [] => []
  | (_, lowers) :: rest => Bytes.ofNatLE 4 at_ ++ offsets (at_ + blockSize lowers) rest

/-- The bytes of a listing. -/
def byteSize (s : MemberSet) : Nat :=
  s.blocks.foldl (fun size b => size + 8 + blockSize b.2) 8

/-- The set as a compressed bitmap. -/
def bitmap (s : MemberSet) : Bytes :=
  let bs := s.blocks
  Bytes.ofNatLE 4 mark ++ (Bytes.ofNatLE 4 bs.length ++
    (bs.flatMap (fun b => Bytes.ofNatLE 2 b.1 ++ Bytes.ofNatLE 2 (b.2.length - 1)) ++
      (offsets (8 + 8 * bs.length) bs ++ bs.flatMap fun b => blockBytes b.2)))

end MemberSet

end MeteredRelay
