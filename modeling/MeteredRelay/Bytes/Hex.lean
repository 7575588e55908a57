import MeteredRelay.Bytes

/-!
# Hexadecimal text

Keys, key files and session ids are shown as two lower-case hexadecimal digits a byte
(`Bytes.toHex`).  Reading (`Bytes.ofHex?`) takes digits of either case and refuses an odd number
of digits and every other character.
-/

namespace MeteredRelay

/-- The value of a hexadecimal digit of either case. -/
def hexDigit? (c : Char) : Option Nat :=
  if '0' ≤ c ∧ c ≤ '9' then some (c.toNat - '0'.toNat)
  else if 'a' ≤ c ∧ c ≤ 'f' then some (c.toNat - 'a'.toNat + 10)
  else if 'A' ≤ c ∧ c ≤ 'F' then some (c.toNat - 'A'.toNat + 10)
  else none

namespace Bytes

/-- The two lower-case digits of a byte. -/
def hexPair (b : UInt8) : List Char := [Nat.digitChar (b.toNat / 16), Nat.digitChar (b.toNat % 16)]

/-- Two lower-case hexadecimal digits for each byte. -/
def toHex (b : Bytes) : String := String.ofList (b.flatMap hexPair)

/-- The bytes written by a list of digits: two digits a byte. -/
def ofHexDigits? : List Char → Option Bytes
  | [] => some []
  | [_] => none
  | h :: l :: r => do
    let hi ← hexDigit? h
    let lo ← hexDigit? l
    let rest ← ofHexDigits? r
    return UInt8.ofNat (16 * hi + lo) :: rest

/-- The bytes that a hexadecimal text writes, if it writes any. -/
def ofHex? (s : String) : Option Bytes := ofHexDigits? s.toList

end Bytes

/-- The least number of hexadecimal digits of `n`, in lower case. -/
def hexOfNat (n : Nat) : String := String.ofList (Nat.toDigits 16 n)

/-- `n` in lower-case hexadecimal digits, filled up with zeros to `w` digits. -/
def paddedHexOfNat (w n : Nat) : String :=
  let d := Nat.toDigits 16 n
  String.ofList (List.replicate (w - d.length) '0' ++ d)

end MeteredRelay
