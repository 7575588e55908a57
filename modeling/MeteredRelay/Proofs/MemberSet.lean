import Mathlib.Data.List.Range
import Mathlib.Data.List.Sort
import Mathlib.Data.List.TakeWhile
import Mathlib.Data.Nat.Bitwise
import Mathlib.Tactic.Common
import MeteredRelay.Session.MemberSet

/-!
# What a compressed bitmap says

A listing shows a set of peers as a compressed bitmap.  This file reads one back, as a client would
that knows the format and nothing of the set: the mark, the number of blocks, the upper half and the
size of each block, then, past the places of the blocks, the blocks themselves.  How a block is
written is told by its size alone.  **`read?_bitmap`** says that the reader finds the ids that were
written, in their order, whatever the set.

Two things could go wrong.  The sizes travel less one in two bytes and the upper halves in two, so
blocks must not be empty nor too large, nor too many: the ids ascend, hence so do the upper halves of
the blocks and the lower halves in each (`Blocked`).  And a bit says only that a number is there, so
the numbers of a block with bits come back in order because they were (`positions_bitBytes`).
-/

namespace MeteredRelay

namespace MemberSet

/-! ## The reader -/

/-- The number in the first `w` bytes, and what is behind them. -/
def takeNumber? (w : Nat) (b : Bytes) : Option (Nat × Bytes) :=
  if w ≤ b.length then some (Bytes.toNatLE (b.take w), b.drop w) else none

/-- A number of things that stand one behind the other, and what is behind them. -/
def takeMany? {α : Type} (take? : Bytes → Option (α × Bytes)) : Nat → Bytes → Option (List α × Bytes)
  | 0, b => some ([], b)
  | count + 1, b =>
    (take? b).bind fun (a, b) => (takeMany? take? count b).map fun (as, b) => (a :: as, b)

/-- The upper half and the size of a block. -/
def takeHead? (b : Bytes) : Option ((Nat × Nat) × Bytes) :=
  (takeNumber? 2 b).bind fun (upper, b) =>
    (takeNumber? 2 b).map fun (last, b) => ((upper, last + 1), b)

/-- The numbers whose bits are set, if the first bit stands for `8 * first`. -/
def positions : (first : Nat) → Bytes → List Nat
  | _, [] => []
  | first, x :: r =>
    ((List.range 8).filter x.toNat.testBit).map (8 * first + ·) ++ positions (first + 1) r

/-- The lower halves in a block of a known size. -/
def takeBlock? (size : Nat) (b : Bytes) : Option (List Nat × Bytes) :=
  if size ≤ listedLimit then takeMany? (takeNumber? 2) size b
  else if bitBlockSize ≤ b.length then some (positions 0 (b.take bitBlockSize), b.drop bitBlockSize)
  else none

/-- The numbers in blocks whose upper halves and sizes are known. -/
def takeBlocks? : List (Nat × Nat) → Bytes → Option (List Nat × Bytes)
  | [], b => some ([], b)
  | (upper, size) :: heads, b =>
    (takeBlock? size b).bind fun (lowers, b) =>
      (takeBlocks? heads b).map fun (ids, b) => (lowers.map (65536 * upper + ·) ++ ids, b)

/-- The ids that a compressed bitmap shows, if it is one. -/
def read? (b : Bytes) : Option (List UInt32) := do
  let (found, b) ← takeNumber? 4 b
  let (count, b) ← takeNumber? 4 b
  let (heads, b) ← takeMany? takeHead? count b
  let (_, b) ← takeMany? (takeNumber? 4) count b
  let (ids, b) ← takeBlocks? heads b
  if found = mark ∧ b = [] then some (ids.map UInt32.ofNat) else none

variable {α β : Type} {rest : Bytes} {lowers : List Nat} {first count : Nat}

/-! ## Reading what was written -/

lemma takeNumber?_ofNatLE {w n : Nat} (h : n < 256 ^ w) (rest : Bytes) :
    takeNumber? w (Bytes.ofNatLE w n ++ rest) = some (n, rest) := by
  have hw : (Bytes.ofNatLE w n).length = w := Bytes.length_ofNatLE w n
  have hn : n % Nat.pow 256 w = n := Nat.mod_eq_of_lt h
  rw [takeNumber?, if_pos (by simp), List.take_left' hw, List.drop_left' hw,
    Bytes.toNatLE_ofNatLE, hn]

/-- Things that are read back one by one are read back one behind the other. -/
lemma takeMany?_flatMap {take? : Bytes → Option (α × Bytes)} {write : β → Bytes} {value : β → α}
    {l : List β} (h : ∀ x ∈ l, ∀ rest, take? (write x ++ rest) = some (value x, rest))
    (rest : Bytes) : takeMany? take? l.length (l.flatMap write ++ rest) = some (l.map value, rest) := by
  induction l with
  | nil => rfl
  | cons x l ih =>
      have hl := ih fun y hy => h y (List.mem_cons_of_mem x hy)
      simp only [List.length_cons, List.flatMap_cons, List.append_assoc, takeMany?,
        h x List.mem_cons_self, Option.bind_some, hl, Option.map_some, List.map_cons]

/-- A reader of the places of blocks gets behind them. -/
lemma takeMany?_offsets (at_ : Nat) (bs : List (Nat × List Nat)) (rest : Bytes) :
    ∃ places, takeMany? (takeNumber? 4) bs.length (offsets at_ bs ++ rest) =
      some (places, rest) := by
  induction bs generalizing at_ with
  | nil => exact ⟨[], rfl⟩
  | cons b bs ih =>
      obtain ⟨places, hplaces⟩ := ih (at_ + blockSize b.2)
      have htake : takeNumber? 4 (Bytes.ofNatLE 4 at_ ++ (offsets (at_ + blockSize b.2) bs ++ rest)) =
          some (at_ % Nat.pow 256 4, offsets (at_ + blockSize b.2) bs ++ rest) := by
        rw [takeNumber?, if_pos (by simp), List.take_left' (Bytes.length_ofNatLE 4 at_),
          List.drop_left' (Bytes.length_ofNatLE 4 at_), Bytes.toNatLE_ofNatLE]
      refine ⟨at_ % Nat.pow 256 4 :: places, ?_⟩
      rw [offsets, List.append_assoc, List.length_cons, takeMany?, htake]
      simp only [Option.bind_some, hplaces, Option.map_some]

/-! ## Bits -/

/-- A byte has the bits that it had, and those of the numbers that were marked in it. -/
lemma testBit_marks (lowers : List Nat) (x : UInt8) {i : Nat} (hi : i < 8) :
    (lowers.foldl (fun b n => b ||| (1 <<< UInt8.ofNat (n % 8))) x).toNat.testBit i = true ↔
      x.toNat.testBit i = true ∨ ∃ n ∈ lowers, n % 8 = i := by
  induction lowers generalizing x with
  | nil => simp
  | cons n lowers ih =>
      have hshift : (UInt8.ofNat (n % 8)).toNat % 8 = n % 8 := by
        rw [UInt8.toNat_ofNat']
        omega
      have hbit : (1 <<< UInt8.ofNat (n % 8) : UInt8).toNat.testBit i = decide (n % 8 = i) := by
        rw [UInt8.toNat_shiftLeft, hshift, UInt8.toNat_one, Nat.one_shiftLeft,
          Nat.testBit_mod_two_pow, Nat.testBit_two_pow]
        simp [hi]
      rw [List.foldl_cons, ih]
      simp only [UInt8.toNat_or, Nat.testBit_or, hbit, Bool.or_eq_true, decide_eq_true_eq,
        List.mem_cons, exists_eq_or_imp, or_assoc]

/-- Numbers of one byte that ascend are read off its bits. -/
lemma positions_bitsOf (hl : lowers.Pairwise (· < ·)) (hf : ∀ n ∈ lowers, n / 8 = first) :
    ((List.range 8).filter (bitsOf lowers).toNat.testBit).map (8 * first + ·) = lowers := by
  refine List.Pairwise.eq_of_mem_iff (r := (· < ·)) ?_ hl fun n => ?_
  · exact (List.pairwise_lt_range.filter _).map _ fun _ _ h => Nat.add_lt_add_left h _
  · simp only [List.mem_map, List.mem_filter, List.mem_range]
    constructor
    · rintro ⟨i, ⟨hi, hbit⟩, rfl⟩
      rcases (testBit_marks lowers 0 hi).mp hbit with hzero | ⟨n, hn, rfl⟩
      · simp at hzero
      · rwa [← hf n hn, Nat.div_add_mod]
    · intro hn
      have hi : n % 8 < 8 := Nat.mod_lt _ (by decide)
      refine ⟨n % 8, ⟨hi, (testBit_marks lowers 0 hi).mpr (.inr ⟨n, hn, rfl⟩)⟩, ?_⟩
      rw [← hf n hn, Nat.div_add_mod]

/-- Numbers that ascend from a byte on are behind it once those in it are gone. -/
lemma lt_of_mem_dropWhile (hl : lowers.Pairwise (· < ·)) (hf : ∀ n ∈ lowers, first ≤ n / 8) :
    ∀ n ∈ lowers.dropWhile (· / 8 == first), first + 1 ≤ n / 8 := by
  induction lowers with
  | nil => simp
  | cons m lowers ih =>
      obtain ⟨hm, hl⟩ := List.pairwise_cons.mp hl
      have hfirst := hf m List.mem_cons_self
      by_cases he : m / 8 = first
      · rw [List.dropWhile_cons_of_pos (by simpa using he)]
        exact ih hl fun n hn => hf n (List.mem_cons_of_mem m hn)
      · rw [List.dropWhile_cons_of_neg (by simpa using he)]
        intro n hn
        rcases List.mem_cons.mp hn with rfl | hn
        · omega
        · have hle : m / 8 ≤ n / 8 := Nat.div_le_div_right (Nat.le_of_lt (hm n hn))
          omega

/-- **Numbers that ascend are read off a bit for each possible one.** -/
lemma positions_bitBytes (hl : lowers.Pairwise (· < ·))
    (hf : ∀ n ∈ lowers, first ≤ n / 8 ∧ n / 8 < first + count) :
    positions first (bitBytes count first lowers) = lowers := by
  induction count generalizing first lowers with
  | zero =>
      have hnil : lowers = [] := List.eq_nil_iff_forall_not_mem.mpr fun n hn => by
        have := hf n hn
        omega
      rw [hnil]
      rfl
  | succ count ih =>
      have hhere : ∀ n ∈ lowers.takeWhile (· / 8 == first), n / 8 = first := fun n hn => by
        simpa using List.mem_takeWhile_imp hn
      have hlate := lt_of_mem_dropWhile hl fun n hn => (hf n hn).1
      rw [bitBytes, positions, positions_bitsOf (hl.sublist (List.takeWhile_sublist _)) hhere,
        ih (hl.sublist (List.dropWhile_sublist _)), List.takeWhile_append_dropWhile]
      intro n hn
      have hlast := (hf n (List.dropWhile_subset _ hn)).2
      exact ⟨hlate n hn, by omega⟩

@[simp] lemma length_bitBytes : (bitBytes count first lowers).length = count := by
  induction count generalizing first lowers with
  | zero => rfl
  | succ count ih => rw [bitBytes, List.length_cons, ih]

/-! ## Blocks -/

/-- A block as it comes of ids that ascend. -/
structure Blocked (b : Nat × List Nat) : Prop where
  upper_lt : b.1 < 65536
  ne_nil : b.2 ≠ []
  ascending : b.2.Pairwise (· < ·)
  lower_lt : ∀ n ∈ b.2, n < 65536

/-- Numbers that ascend below a bound are no more than the bound. -/
lemma length_le_of_ascending {bound : Nat} (hl : lowers.Pairwise (· < ·))
    (hb : ∀ n ∈ lowers, n < bound) : lowers.length ≤ bound := by
  have hsub : lowers ⊆ List.range bound := fun n hn => List.mem_range.mpr (hb n hn)
  have hnodup : lowers.Nodup := hl.imp Nat.ne_of_lt
  simpa using (List.subperm_of_subset hnodup hsub).length_le

lemma Blocked.length_le {b : Nat × List Nat} (h : Blocked b) : b.2.length ≤ 65536 :=
  length_le_of_ascending h.ascending h.lower_lt

/-- A block of ascending numbers is read back. -/
lemma takeBlock?_blockBytes {b : Nat × List Nat} (h : Blocked b) (rest : Bytes) :
    takeBlock? b.2.length (blockBytes b.2 ++ rest) = some (b.2, rest) := by
  rw [takeBlock?, blockBytes]
  split
  · have hmany : takeMany? (takeNumber? 2) b.2.length (b.2.flatMap (Bytes.ofNatLE 2) ++ rest) =
        some (b.2.map id, rest) := takeMany?_flatMap (fun n hn =>
      takeNumber?_ofNatLE (Nat.lt_of_lt_of_le (h.lower_lt n hn) (by decide))) rest
    rwa [List.map_id] at hmany
  · have hbits : positions 0 (bitBytes bitBlockSize 0 b.2) = b.2 := by
      refine positions_bitBytes h.ascending fun n hn => ⟨Nat.zero_le _, ?_⟩
      have hlt := h.lower_lt n hn
      have hsize : bitBlockSize = 8192 := rfl
      omega
    rw [if_pos (by simp), List.take_left' length_bitBytes, List.drop_left' length_bitBytes, hbits]

lemma takeHead?_written {b : Nat × List Nat} (h : Blocked b) (rest : Bytes) :
    takeHead? (Bytes.ofNatLE 2 b.1 ++ Bytes.ofNatLE 2 (b.2.length - 1) ++ rest) =
      some ((b.1, b.2.length), rest) := by
  have hlen := h.length_le
  have hpos : 0 < b.2.length := List.length_pos_iff.mpr h.ne_nil
  have hpow : 256 ^ 2 = 65536 := rfl
  have hlast : takeNumber? 2 (Bytes.ofNatLE 2 (b.2.length - 1) ++ rest) =
      some (b.2.length - 1, rest) := takeNumber?_ofNatLE (by omega) rest
  simp only [takeHead?, List.append_assoc, takeNumber?_ofNatLE (hpow ▸ h.upper_lt),
    Option.bind_some, hlast, Option.map_some, Nat.sub_add_cancel hpos]

/-- The numbers in blocks. -/
def joined (bs : List (Nat × List Nat)) : List Nat :=
  bs.flatMap fun b => b.2.map (65536 * b.1 + ·)

lemma takeBlocks?_written {bs : List (Nat × List Nat)} (h : ∀ b ∈ bs, Blocked b) (rest : Bytes) :
    takeBlocks? (bs.map fun b => (b.1, b.2.length)) (bs.flatMap (fun b => blockBytes b.2) ++ rest) =
      some (joined bs, rest) := by
  induction bs with
  | nil => rfl
  | cons b bs ih =>
      have hbs := ih fun c hc => h c (List.mem_cons_of_mem b hc)
      simp only [List.map_cons, List.flatMap_cons, List.append_assoc, takeBlocks?,
        takeBlock?_blockBytes (h b List.mem_cons_self), Option.bind_some, hbs, Option.map_some,
        joined]

/-! ## The blocks of a set -/

variable {ids : List UInt32} {n : UInt32}

/-- What becomes of the blocks when a number is put before them: it joins the first block or is one
of its own. -/
lemma blocksOf_cons (n : UInt32) (ids : List UInt32) :
    (∃ lowers bs, blocksOf ids = (n.toNat / 65536, lowers) :: bs ∧
      blocksOf (n :: ids) = (n.toNat / 65536, n.toNat % 65536 :: lowers) :: bs) ∨
    ((∀ b bs, blocksOf ids = b :: bs → b.1 ≠ n.toNat / 65536) ∧
      blocksOf (n :: ids) = (n.toNat / 65536, [n.toNat % 65536]) :: blocksOf ids) := by
  rw [blocksOf]
  split
  · rename_i h
    exact .inr ⟨fun b bs hb => by rw [h] at hb; contradiction, by rw [h]⟩
  · rename_i upper lowers bs h
    split
    · rename_i he
      exact .inl ⟨lowers, bs, by rw [h, he], by rw [he]⟩
    · rename_i he
      refine .inr ⟨fun b bs hb => ?_, by rw [h]⟩
      rw [h] at hb
      cases hb
      exact he

lemma joined_blocksOf (ids : List UInt32) : joined (blocksOf ids) = ids.map UInt32.toNat := by
  induction ids with
  | nil => rfl
  | cons n ids ih =>
      have hn : 65536 * (n.toNat / 65536) + n.toNat % 65536 = n.toNat := Nat.div_add_mod _ _
      rw [List.map_cons, ← ih]
      rcases blocksOf_cons n ids with ⟨lowers, bs, hold, hnew⟩ | ⟨-, hnew⟩
      · rw [hold, hnew]
        simp only [joined, List.flatMap_cons, List.map_cons, List.cons_append, hn]
      · rw [hnew]
        simp only [joined, List.flatMap_cons, List.map_cons, List.map_nil, List.cons_append,
          List.nil_append, hn]

/-- The upper half of a block is that of some id. -/
lemma exists_of_mem_blocksOf {b : Nat × List Nat} (hb : b ∈ blocksOf ids) :
    ∃ n ∈ ids, b.1 = n.toNat / 65536 := by
  induction ids with
  | nil => cases hb
  | cons n ids ih =>
      rcases blocksOf_cons n ids with ⟨lowers, bs, hold, hnew⟩ | ⟨-, hnew⟩
      · rw [hnew] at hb
        rcases List.mem_cons.mp hb with rfl | hb
        · exact ⟨n, List.mem_cons_self, rfl⟩
        · obtain ⟨m, hm, he⟩ := ih (hold ▸ List.mem_cons_of_mem _ hb)
          exact ⟨m, List.mem_cons_of_mem n hm, he⟩
      · rw [hnew] at hb
        rcases List.mem_cons.mp hb with rfl | hb
        · exact ⟨n, List.mem_cons_self, rfl⟩
        · obtain ⟨m, hm, he⟩ := ih hb
          exact ⟨m, List.mem_cons_of_mem n hm, he⟩

/-- The upper halves of the blocks of ascending ids ascend. -/
lemma pairwise_blocksOf (hids : ids.Pairwise (· < ·)) :
    (blocksOf ids).Pairwise fun b c => b.1 < c.1 := by
  induction ids with
  | nil => exact .nil
  | cons n ids ih =>
      obtain ⟨hn, hids⟩ := List.pairwise_cons.mp hids
      have hbs := ih hids
      rcases blocksOf_cons n ids with ⟨lowers, bs, hold, hnew⟩ | ⟨hne, hnew⟩
      · rw [hold, List.pairwise_cons] at hbs
        rw [hnew]
        exact List.pairwise_cons.mpr hbs
      · rw [hnew]
        refine List.pairwise_cons.mpr ⟨fun c hc => ?_, hbs⟩
        -- no block is below that of the first id, and the first block is another
        have hle : ∀ c ∈ blocksOf ids, n.toNat / 65536 ≤ c.1 := by
          intro c hc
          obtain ⟨m, hm, he⟩ := exists_of_mem_blocksOf hc
          rw [he]
          exact Nat.div_le_div_right (Nat.le_of_lt (UInt32.lt_iff_toNat_lt.mp (hn m hm)))
        cases hblocks : blocksOf ids with
        | nil => rw [hblocks] at hc; cases hc
        | cons b bs =>
            have hb := hle b (hblocks ▸ List.mem_cons_self)
            have hb' := hne b bs hblocks
            rw [hblocks, List.pairwise_cons] at hbs
            rw [hblocks] at hc
            rcases List.mem_cons.mp hc with rfl | hc
            · show n.toNat / 65536 < c.1
              omega
            · have := hbs.1 c hc
              show n.toNat / 65536 < c.1
              omega

lemma blocked_of_mem (hids : ids.Pairwise (· < ·)) : ∀ b ∈ blocksOf ids, Blocked b := by
  induction ids with
  | nil => nofun
  | cons n ids ih =>
      have hn : n.toNat < 65536 * 65536 := n.toNat_lt
      have hlower : n.toNat % 65536 < 65536 := Nat.mod_lt _ (by decide)
      obtain ⟨hfirst, hids'⟩ := List.pairwise_cons.mp hids
      intro b hb
      rcases blocksOf_cons n ids with ⟨lowers, bs, hold, hnew⟩ | ⟨-, hnew⟩
      · rw [hnew] at hb
        rcases List.mem_cons.mp hb with rfl | hb
        · have hblock := ih hids' _ (hold ▸ List.mem_cons_self)
          refine ⟨hblock.upper_lt, List.cons_ne_nil _ _, ?_, ?_⟩
          · refine List.pairwise_cons.mpr ⟨fun m hm => ?_, hblock.ascending⟩
            -- the two stand under one upper half, so they are ordered as their ids
            have hk : 65536 * (n.toNat / 65536) + m ∈ joined (blocksOf ids) := by
              rw [hold, joined, List.flatMap_cons]
              exact List.mem_append_left _ (List.mem_map.mpr ⟨m, hm, rfl⟩)
            rw [joined_blocksOf] at hk
            obtain ⟨k, hkids, hk⟩ := List.mem_map.mp hk
            have hlt := UInt32.lt_iff_toNat_lt.mp (hfirst k hkids)
            show n.toNat % 65536 < m
            omega
          · intro m hm
            rcases List.mem_cons.mp hm with rfl | hm
            · exact hlower
            · exact hblock.lower_lt m hm
        · exact ih hids' b (hold ▸ List.mem_cons_of_mem _ hb)
      · rw [hnew] at hb
        rcases List.mem_cons.mp hb with rfl | hb
        · refine ⟨Nat.div_lt_of_lt_mul hn, List.cons_ne_nil _ _, List.pairwise_singleton _ _, ?_⟩
          simpa using hlower
        · exact ih hids' b hb

lemma length_blocksOf_le (hids : ids.Pairwise (· < ·)) : (blocksOf ids).length ≤ 65536 := by
  rw [← List.length_map (f := Prod.fst)]
  refine length_le_of_ascending ((pairwise_blocksOf hids).map _ fun _ _ h => h) fun upper hu => ?_
  obtain ⟨b, hb, rfl⟩ := List.mem_map.mp hu
  exact (blocked_of_mem hids b hb).upper_lt

/-- **A bitmap shows the ids that it was made of, in ascending order.** -/
theorem read?_bitmap (s : MemberSet) : read? s.bitmap = some s.ids := by
  have hblocked := blocked_of_mem s.ascending
  have hmark : mark < 256 ^ 4 := by decide
  have hcount : s.blocks.length < 256 ^ 4 :=
    Nat.lt_of_le_of_lt (length_blocksOf_le s.ascending) (by decide)
  have hheads := takeMany?_flatMap fun b hb => takeHead?_written (hblocked b hb)
  obtain ⟨places, hplaces⟩ := takeMany?_offsets (8 + 8 * s.blocks.length) s.blocks
    (s.blocks.flatMap fun b => blockBytes b.2)
  have hlowers := takeBlocks?_written hblocked []
  rw [List.append_nil, joined_blocksOf] at hlowers
  have hids : (s.ids.map UInt32.toNat).map UInt32.ofNat = s.ids := by
    rw [List.map_map]
    exact (List.map_congr_left fun n _ => UInt32.ofNat_toNat).trans (List.map_id _)
  simp only [blocks] at hcount hplaces
  simp only [read?, bitmap, blocks, Option.bind_eq_bind, takeNumber?_ofNatLE hmark,
    takeNumber?_ofNatLE hcount, hheads, hplaces, hlowers, Option.bind_some, and_self, if_true, hids]

-- Two blocks of one number each.
example : read? ((empty.insert ⟨70000⟩).insert ⟨7⟩).bitmap = some [7, 70000] := by decide

/-- Sets with the same peers are the same. -/
lemma eq_of_contains {s t : MemberSet}
    (h : ∀ p, s.contains p = true ↔ t.contains p = true) : s = t := by
  have hids : s.ids = t.ids := by
    refine List.Pairwise.eq_of_mem_iff s.ascending t.ascending fun n => ?_
    simpa only [contains, List.contains_iff_mem] using h ⟨n⟩
  cases s
  cases t
  cases hids
  rfl

/-! ## Sizes -/

lemma length_blockBytes (lowers : List Nat) : (blockBytes lowers).length = blockSize lowers := by
  rw [blockBytes, blockSize]
  split
  · simp [Nat.mul_comm]
  · exact length_bitBytes

/-- What the blocks add to a bitmap: eight bytes each for the head and the place, and their own. -/
lemma foldl_blockSize (bs : List (Nat × List Nat)) (size at_ : Nat) :
    bs.foldl (fun size b => size + 8 + blockSize b.2) size =
      size + ((bs.flatMap fun b => Bytes.ofNatLE 2 b.1 ++ Bytes.ofNatLE 2 (b.2.length - 1)).length +
        ((offsets at_ bs).length + (bs.flatMap fun b => blockBytes b.2).length)) := by
  induction bs generalizing size at_ with
  | nil => rfl
  | cons b bs ih =>
      rw [List.foldl_cons, ih (size + 8 + blockSize b.2) (at_ + blockSize b.2)]
      simp only [List.flatMap_cons, List.length_append, offsets, Bytes.length_ofNatLE,
        length_blockBytes]
      omega

/-- A bitmap has the size that was reckoned before it was written. -/
theorem length_bitmap (s : MemberSet) : s.bitmap.length = s.byteSize := by
  rw [byteSize, foldl_blockSize s.blocks 8 (8 + 8 * s.blocks.length)]
  simp only [bitmap, List.length_append, Bytes.length_ofNatLE]
  omega

lemma bitmap_ne_nil (s : MemberSet) : s.bitmap ≠ [] := by
  intro h
  have hsize := foldl_blockSize s.blocks 8 0
  have hlen := length_bitmap s
  rw [h, byteSize, hsize, List.length_nil] at hlen
  omega

/-! ## Sets without neighbours -/

/-- Ids no two of which have the same upper half make a block each. -/
lemma blocksOf_of_apart (h : ids.Pairwise fun m n => m.toNat / 65536 ≠ n.toNat / 65536) :
    blocksOf ids = ids.map fun n => (n.toNat / 65536, [n.toNat % 65536]) := by
  induction ids with
  | nil => rfl
  | cons n ids ih =>
      obtain ⟨hn, hids⟩ := List.pairwise_cons.mp h
      rcases blocksOf_cons n ids with ⟨lowers, bs, hold, -⟩ | ⟨-, hnew⟩
      · obtain ⟨m, hm, hupper⟩ := exists_of_mem_blocksOf (hold ▸ List.mem_cons_self)
        exact absurd hupper (hn m hm)
      · rw [hnew, ih hids, List.map_cons]

/-- A block of one id takes ten bytes: four for the head, four for the place and two for the id. -/
lemma byteSize_of_apart {s : MemberSet}
    (h : s.ids.Pairwise fun m n => m.toNat / 65536 ≠ n.toNat / 65536) :
    s.byteSize = 8 + 10 * s.ids.length := by
  have hadd (ids : List UInt32) (size : Nat) :
      (ids.map fun n => (n.toNat / 65536, [n.toNat % 65536])).foldl
        (fun size b => size + 8 + blockSize b.2) size = size + 10 * ids.length := by
    induction ids generalizing size with
    | nil => rfl
    | cons n ids ih =>
        have hone : blockSize [n.toNat % 65536] = 2 := rfl
        rw [List.map_cons, List.foldl_cons, ih, hone, List.length_cons]
        omega
  rw [byteSize, blocks, blocksOf_of_apart h, hadd]

/-- Ids with so many upper halves, from zero on, and each with the lower half one. -/
def scatteredIds (count : Nat) : List UInt32 :=
  (List.range count).map fun i => UInt32.ofNat (65536 * i + 1)

lemma pairwise_scatteredIds {count : Nat} (h : count ≤ 65536) :
    (scatteredIds count).Pairwise fun m n => m.toNat / 65536 < n.toNat / 65536 := by
  refine List.pairwise_map.mpr (List.pairwise_lt_range.imp_of_mem fun {i j} hi hj hlt => ?_)
  rw [List.mem_range] at hi hj
  rw [UInt32.toNat_ofNat_of_lt' (by simp [UInt32.size]; omega),
    UInt32.toNat_ofNat_of_lt' (by simp [UInt32.size]; omega)]
  omega

/-- The set of such ids. -/
def scattered (count : Nat) (h : count ≤ 65536) : MemberSet where
  ids := scatteredIds count
  ascending := (pairwise_scatteredIds h).imp fun hupper =>
    UInt32.lt_iff_toNat_lt.mpr (Nat.lt_of_div_lt_div hupper)

lemma contains_scattered {count i : Nat} (h : count ≤ 65536) (hi : i < count) :
    (scattered count h).contains ⟨UInt32.ofNat (65536 * i + 1)⟩ = true :=
  List.contains_iff_mem.mpr (List.mem_map.mpr ⟨i, List.mem_range.mpr hi, rfl⟩)

/-- Ten bytes for each id, where ids that share an upper half take two. -/
lemma byteSize_scattered {count : Nat} (h : count ≤ 65536) :
    (scattered count h).byteSize = 8 + 10 * count := by
  rw [byteSize_of_apart ((pairwise_scatteredIds h).imp Nat.ne_of_lt)]
  simp [scattered, scatteredIds]

end MemberSet

end MeteredRelay
