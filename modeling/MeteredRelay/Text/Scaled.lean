import MeteredRelay.Text.Decimal

/-!
# Scaled numbers

Counts and rates are shown in the largest unit of a thousand that they reach, with two decimals.
A count below a thousand is shown as it is; a rate always has its decimals.
-/

namespace MeteredRelay.Scaled

/-- A number in the largest of the given units that it reaches, each a thousand of the one before. -/
def text (v : Float) (unit : String) : List String → String
  | [] => Decimal.hundredths (.ofBits v.toBits) ++ unit
  | larger :: rest =>
    if 1000.0 ≤ v then text (v / 1000.0) larger rest
    else Decimal.hundredths (.ofBits v.toBits) ++ unit

/-- A number of bytes. -/
def bytes (n : UInt64) : String :=
  if n < 1000 then s!"{n.toNat}B" else text n.toFloat "B" ["KB", "MB", "GB", "TB", "PB"]

/-- A number of things. -/
def count (n : UInt64) : String :=
  if n < 1000 then s!"{n.toNat}" else text n.toFloat "" ["K", "M", "G", "T", "P"]

/-- A number of things a second. -/
def rate (v : Float) : String := text v "" ["K", "M", "G", "T", "P"]

end MeteredRelay.Scaled
