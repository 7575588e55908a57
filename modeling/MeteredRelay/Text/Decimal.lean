/-!
# Two decimals of a binary number

Rates are shown with two decimals, rounded from the exact value of a binary fraction; a value that
lies exactly between two neighbours goes to the even one.  `Decimal.roundDiv` is the rounding and
`Decimal.hundredths` the text.  The main statements say that the rounded quotient is within half a
unit of the exact one (**`roundDiv_le`**, **`le_roundDiv`**).
-/

namespace MeteredRelay.Decimal

/-- `num / den` rounded to the nearest whole number, to the even one of two. -/
def roundDiv (num den : Nat) : Nat :=
  let n := num / den
  let r := num % den
  if 2 * r < den then n else if den < 2 * r then n + 1 else n + n % 2

/-- The rounded quotient exceeds the exact one by half a unit at most. -/
theorem roundDiv_le {num den : Nat} (h : 0 < den) : 2 * (den * roundDiv num den) ≤ 2 * num + den := by
  have hd := Nat.div_add_mod num den
  have hm := Nat.mod_lt num h
  have h2 := Nat.mod_lt (num / den) (show 0 < 2 by decide)
  simp only [roundDiv]
  split
  · omega
  · have hle : den * (num / den + num / den % 2) ≤ den * (num / den + 1) :=
      Nat.mul_le_mul_left _ (by omega)
    rw [Nat.mul_add den (num / den) 1, Nat.mul_one] at hle
    split
    · rw [Nat.mul_add, Nat.mul_one]
      omega
    · omega

/-- The exact quotient exceeds the rounded one by half a unit at most. -/
theorem le_roundDiv {num den : Nat} (h : 0 < den) : 2 * num ≤ 2 * (den * roundDiv num den) + den := by
  have hd := Nat.div_add_mod num den
  have hm := Nat.mod_lt num h
  simp only [roundDiv]
  split
  · omega
  · have hle : den * (num / den) ≤ den * (num / den + num / den % 2) :=
      Nat.mul_le_mul_left _ (Nat.le_add_right _ _)
    split
    · rw [Nat.mul_add, Nat.mul_one]
      omega
    · omega

/-- What the sixty-four bits of a binary number stand for. -/
inductive Binary where
  /-- No number. -/
  | nan
  /-- Beyond every number. -/
  | infinite (negative : Bool)
  /-- `mantissa * 2 ^ exponent / 2 ^ 1074`, with a sign. -/
  | finite (negative : Bool) (mantissa exponent : Nat)
deriving DecidableEq

/-- The number that sixty-four bits stand for. -/
def Binary.ofBits (bits : UInt64) : Binary :=
  let n := bits.toNat
  let negative := n.testBit 63
  let e := n >>> 52 % 2048
  let f := n % (1 <<< 52)
  if e = 2047 then if f = 0 then .infinite negative else .nan
  else if e = 0 then .finite negative f 0
  else .finite negative ((1 <<< 52) + f) (e - 1)

/-- The text of a count of hundredths. -/
def ofHundredths (n : Nat) : String :=
  let r := n % 100
  s!"{n / 100}." ++ (if r < 10 then s!"0{r}" else s!"{r}")

/-- A binary number with two decimals. -/
def hundredths : Binary → String
  | .nan => "NaN"
  | .infinite negative => if negative then "-inf" else "inf"
  | .finite negative m e =>
    (if negative then "-" else "") ++ ofHundredths (roundDiv ((100 * m) <<< e) (1 <<< 1074))

end MeteredRelay.Decimal
