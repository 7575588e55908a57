import MeteredRelay.Bytes.Hex

/-!
# Reading unsigned numbers

Tables and addresses hold unsigned numbers as digits of base ten or sixteen, possibly after a plus
sign.  A number is refused for the first thing that is wrong with it from left to right: nothing to
read, a character that is no digit, or a value that outgrew the word it is to be stored in.
-/

namespace MeteredRelay.Text

/-- Why a text is no number. -/
inductive IntegerFault where
  /-- Nothing to read. -/
  | empty
  /-- A character that is no digit of the base. -/
  | invalidDigit
  /-- A value above the largest one. -/
  | tooLarge
deriving DecidableEq

namespace IntegerFault

/-- The fault in words. -/
def message : IntegerFault → String
  | empty => "cannot parse integer from empty string"
  | invalidDigit => "invalid digit found in string"
  | tooLarge => "number too large to fit in target type"

end IntegerFault

/-- The value of a digit of the given base. -/
def digit? (base : Nat) (c : Char) : Option Nat := (hexDigit? c).filter (· < base)

/-- The number of the digits `cs` after digits with the value `n`; no value may reach `bound`. -/
def digitsFrom (base bound n : Nat) : List Char → Except IntegerFault Nat
  | [] => .ok n
  | c :: r =>
    match digit? base c with
    | none => .error .invalidDigit
    | some d => if base * n + d < bound then digitsFrom base bound (base * n + d) r else .error .tooLarge

/-- The number below `bound` that a text writes in the given base. -/
def readNat (base bound : Nat) (cs : List Char) : Except IntegerFault Nat :=
  match cs with
  | [] => .error .empty
  | ['+'] => .error .invalidDigit
  | '+' :: r => digitsFrom base bound 0 r
  | _ => digitsFrom base bound 0 cs

/-- The 64-bit number that a text writes in the given base. -/
def readUInt64 (base : Nat) (cs : List Char) : Except IntegerFault UInt64 :=
  (readNat base UInt64.size cs).map UInt64.ofNat

end MeteredRelay.Text
