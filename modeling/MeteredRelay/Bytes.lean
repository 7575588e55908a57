/-!
# Byte strings

Everything that travels is a list of bytes.  `Bytes` is that list, and `Octets n` is a byte
string of exactly `n` bytes: keys, secrets, session ids, nonces and authentication tags all have
a fixed width, and carrying the width in the type keeps length checks out of the rules.

Numbers travel most significant byte first (`ofNatBE`, `toNatBE`); the membership bitmap and the
ciphers also use the opposite order (`ofNatLE`, `toNatLE`).  The main statements say that a number
written in `w` bytes reads back modulo `256 ^ w` (**`toNatBE_ofNatBE`**, **`toNatLE_ofNatLE`**) and
that bytes read as a number are written back unchanged (**`ofNatBE_toNatBE`**,
**`ofNatLE_toNatLE`**).
-/

namespace MeteredRelay

/-- A byte string. -/
abbrev Bytes := List UInt8

namespace Bytes

/-! ## Numbers, least significant byte first -/

/-- The `w` bytes of `n`, least significant first; what does not fit is dropped. -/
def ofNatLE : Nat → Nat → Bytes
  | 0, _ => []
  | w + 1, n => UInt8.ofNat n :: ofNatLE w (n / 256)

/-- The number whose bytes, least significant first, are given. -/
def toNatLE : Bytes → Nat
  | [] => 0
  | b :: r => b.toNat + 256 * toNatLE r

@[simp] theorem length_ofNatLE (w n : Nat) : (ofNatLE w n).length = w := by
  induction w generalizing n with
  | zero => rfl
  | succ w ih => simp [ofNatLE, ih]

/-- A number written in `w` bytes reads back modulo `256 ^ w`. -/
theorem toNatLE_ofNatLE (w n : Nat) : toNatLE (ofNatLE w n) = n % Nat.pow 256 w := by
  induction w generalizing n with
  | zero => simp [ofNatLE, toNatLE, Nat.mod_one]
  | succ w ih =>
    have hb : (UInt8.ofNat n).toNat = n % 256 := UInt8.toNat_ofNat'
    have hp : Nat.pow 256 (w + 1) = 256 * Nat.pow 256 w := Nat.mul_comm _ _
    rw [ofNatLE, toNatLE, ih, hb, hp, Nat.mod_mul]

/-- Bytes read as a number are written back unchanged. -/
theorem ofNatLE_toNatLE (b : Bytes) : ofNatLE b.length (toNatLE b) = b := by
  induction b with
  | nil => rfl
  | cons x r ih =>
    have hx : x.toNat < 256 := x.toNat_lt
    have hdiv : (x.toNat + 256 * toNatLE r) / 256 = toNatLE r := by omega
    simp only [List.length_cons, ofNatLE, toNatLE, hdiv, ih, List.cons.injEq, and_true]
    apply UInt8.toNat_inj.mp
    rw [UInt8.toNat_ofNat']
    omega

/-! ## Numbers, most significant byte first -/

/-- The `w` bytes of `n`, most significant first. -/
def ofNatBE (w n : Nat) : Bytes := (ofNatLE w n).reverse

/-- The number whose bytes, most significant first, are given. -/
def toNatBE (b : Bytes) : Nat := toNatLE b.reverse

@[simp] theorem length_ofNatBE (w n : Nat) : (ofNatBE w n).length = w := by
  simp [ofNatBE]

/-- A number written in `w` bytes reads back modulo `256 ^ w`. -/
theorem toNatBE_ofNatBE (w n : Nat) : toNatBE (ofNatBE w n) = n % Nat.pow 256 w := by
  simp [toNatBE, ofNatBE, toNatLE_ofNatLE]

/-- Bytes read as a number are written back unchanged. -/
theorem ofNatBE_toNatBE (b : Bytes) : ofNatBE b.length (toNatBE b) = b := by
  have h := ofNatLE_toNatLE b.reverse
  rw [List.length_reverse] at h
  rw [ofNatBE, toNatBE, h, List.reverse_reverse]

theorem toNatBE_lt (b : Bytes) : toNatBE b < Nat.pow 256 b.length := by
  have h := toNatBE_ofNatBE b.length (toNatBE b)
  rw [ofNatBE_toNatBE] at h
  rw [h]
  exact Nat.mod_lt _ (Nat.pow_pos (by decide))

/-- The bytes of an ASCII text. -/
def ofAscii (s : String) : Bytes := s.toList.map fun c => UInt8.ofNat c.toNat

/-! ## Words -/

/-- The four bytes of a 32-bit word. -/
def ofUInt32 (v : UInt32) : Bytes := ofNatBE 4 v.toNat

/-- The word in the first four bytes; missing bytes shorten the number. -/
def toUInt32 (b : Bytes) : UInt32 := UInt32.ofNat (toNatBE (b.take 4))

/-- The eight bytes of a 64-bit word. -/
def ofUInt64 (v : UInt64) : Bytes := ofNatBE 8 v.toNat

/-- The word in the first eight bytes; missing bytes shorten the number. -/
def toUInt64 (b : Bytes) : UInt64 := UInt64.ofNat (toNatBE (b.take 8))

/-- The eight bytes of a signed 64-bit number, in two's complement. -/
def ofInt64 (v : Int64) : Bytes := ofUInt64 v.toUInt64

/-- The signed number in the first eight bytes. -/
def toInt64 (b : Bytes) : Int64 := (toUInt64 b).toInt64

@[simp] theorem length_ofUInt32 (v : UInt32) : (ofUInt32 v).length = 4 := length_ofNatBE 4 _

@[simp] theorem length_ofUInt64 (v : UInt64) : (ofUInt64 v).length = 8 := length_ofNatBE 8 _

@[simp] theorem length_ofInt64 (v : Int64) : (ofInt64 v).length = 8 := length_ofNatBE 8 _

@[simp] theorem toUInt32_ofUInt32_append (v : UInt32) (r : Bytes) :
    toUInt32 (ofUInt32 v ++ r) = v := by
  have hv : v.toNat < Nat.pow 256 4 := v.toNat_lt
  rw [toUInt32, List.take_append_of_le_length (by simp), List.take_of_length_le (by simp),
    ofUInt32, toNatBE_ofNatBE, Nat.mod_eq_of_lt hv, UInt32.ofNat_toNat]

@[simp] theorem toUInt64_ofUInt64_append (v : UInt64) (r : Bytes) :
    toUInt64 (ofUInt64 v ++ r) = v := by
  have hv : v.toNat < Nat.pow 256 8 := v.toNat_lt
  rw [toUInt64, List.take_append_of_le_length (by simp), List.take_of_length_le (by simp),
    ofUInt64, toNatBE_ofNatBE, Nat.mod_eq_of_lt hv, UInt64.ofNat_toNat]

@[simp] theorem toInt64_ofInt64_append (v : Int64) (r : Bytes) :
    toInt64 (ofInt64 v ++ r) = v := by
  rw [toInt64, ofInt64, toUInt64_ofUInt64_append, Int64.toInt64_toUInt64]

@[simp] theorem toUInt32_ofUInt32 (v : UInt32) : toUInt32 (ofUInt32 v) = v := by
  simpa using toUInt32_ofUInt32_append v []

@[simp] theorem toUInt64_ofUInt64 (v : UInt64) : toUInt64 (ofUInt64 v) = v := by
  simpa using toUInt64_ofUInt64_append v []

theorem ofUInt32_toUInt32 {b : Bytes} (h : 4 ≤ b.length) : ofUInt32 (toUInt32 b) = b.take 4 := by
  have hl : (b.take 4).length = 4 := by rw [List.length_take]; omega
  have hlt := toNatBE_lt (b.take 4)
  have hb := ofNatBE_toNatBE (b.take 4)
  rw [hl] at hlt hb
  rw [ofUInt32, toUInt32, UInt32.toNat_ofNat_of_lt' hlt, hb]

theorem ofUInt64_toUInt64 {b : Bytes} (h : 8 ≤ b.length) : ofUInt64 (toUInt64 b) = b.take 8 := by
  have hl : (b.take 8).length = 8 := by rw [List.length_take]; omega
  have hlt := toNatBE_lt (b.take 8)
  have hb := ofNatBE_toNatBE (b.take 8)
  rw [hl] at hlt hb
  rw [ofUInt64, toUInt64, UInt64.toNat_ofNat_of_lt' hlt, hb]

end Bytes

/-! ## Byte strings of a fixed width -/

/-- A byte string of exactly `n` bytes. -/
abbrev Octets (n : Nat) := { b : Bytes // b.length = n }

namespace Octets

/-- The byte string as `n` octets, if it is that long. -/
def ofBytes? (n : Nat) (b : Bytes) : Option (Octets n) :=
  if h : b.length = n then some ⟨b, h⟩ else none

/-- `n` zero bytes. -/
def zero (n : Nat) : Octets n := ⟨List.replicate n 0, by simp⟩

/-- The first `n` bytes of `b`, filled up with zeros if there are fewer. -/
def ofPrefixed (n : Nat) (b : Bytes) : Octets n :=
  ⟨b.take n ++ List.replicate (n - b.length) 0, by simp; omega⟩

/-- A string that is long enough gives its own first bytes. -/
theorem val_ofPrefixed {n : Nat} {b : Bytes} (h : n ≤ b.length) : (ofPrefixed n b).1 = b.take n := by
  simp [ofPrefixed, Nat.sub_eq_zero_of_le h]

instance {n : Nat} : Inhabited (Octets n) := ⟨zero n⟩

end Octets

end MeteredRelay
