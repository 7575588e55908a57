import MeteredRelay.Text.Integer
import MeteredRelay.Toml.Quoted
import MeteredRelay.Toml.Table

/-!
# Single values of TOML

Texts, truth values, whole numbers, numbers with a fraction, dates and times of day.

A whole number has 64 bits with a sign.  It has no zero in front, and may be written in base
sixteen, eight or two, then without a sign.  Single underscores may stand between digits.  A number
with a fraction may not be so large that it has no finite value of 64 bits.  Dates and times are
those of the calendar and the clock, where a minute may have sixty-one seconds.
-/

namespace MeteredRelay.Toml.Scalar

open Text

/-! ## Numbers -/

/-- Whether a character is a digit of a base. -/
def isDigit (base : Nat) (c : Char) : Bool := (digit? base c).isSome

/-- The number that digits write. -/
def valueOf (base : Nat) (ds : List Char) : Nat :=
  ds.foldl (fun n c => base * n + (digit? base c).getD 0) 0

/-- Reads digits, between which single underscores may stand. -/
def digits (base : Nat) : Reader (List Char) := fun cs => do
  let (d, cs) ← Reader.satisfy (isDigit base) cs
  let next : Reader Char := fun cs => do
    let (_, cs) ← Reader.optional (Reader.char '_') cs
    Reader.satisfy (isDigit base) cs
  let (ds, cs) := Reader.many next cs
  return (d :: ds, cs)

/-- Reads a sign, and tells whether it is a minus. -/
def sign : Reader Bool
  | '-' :: r => some (true, r)
  | '+' :: r => some (false, r)
  | cs => some (false, cs)

/-- Reads a sign and digits without a zero in front. -/
def signedDigits : Reader (Bool × List Char) := fun cs => do
  let (negative, cs) ← sign cs
  let (ds, cs) ← digits 10 cs
  if ds.head? = some '0' ∧ 1 < ds.length then none else some ((negative, ds), cs)

/-- Whether a whole number has 64 bits. -/
def fits (n : Int) : Bool := -0x8000000000000000 ≤ n && n < 0x8000000000000000

/-- Reads a whole number. -/
def integer : Reader Node := fun cs => do
  let (n, cs) ← match cs with
    | '0' :: 'x' :: r => Reader.map (fun ds => (valueOf 16 ds : Int)) (digits 16) r
    | '0' :: 'o' :: r => Reader.map (fun ds => (valueOf 8 ds : Int)) (digits 8) r
    | '0' :: 'b' :: r => Reader.map (fun ds => (valueOf 2 ds : Int)) (digits 2) r
    | _ => Reader.map (fun (negative, ds) =>
        if negative then -(valueOf 10 ds : Int) else valueOf 10 ds) signedDigits cs
  if fits n then some (.integer n, cs) else none

/-- Reads an exponent. -/
def exponent : Reader Int := fun cs => do
  let (_, cs) ← Reader.orElse (Reader.char 'e') (Reader.char 'E') cs
  let (negative, cs) ← sign cs
  let (ds, cs) ← digits 10 cs
  return (if negative then -(valueOf 10 ds : Int) else valueOf 10 ds, cs)

/-- Reads a point and the digits after it. -/
def fraction : Reader (List Char) := fun cs => do
  let (_, cs) ← Reader.char '.' cs
  digits 10 cs

/-- Whether `m` times the power `e` of ten is nearer to two to the power 1024 than to any number of
64 bits. -/
def isTooLarge (m : Nat) (e : Int) : Bool :=
  let bound := (1 <<< 1024) - (1 <<< 970)
  let size := (Nat.toDigits 10 m).length + e
  m != 0 && 300 < size && (400 < size || (if 0 ≤ e then bound ≤ m * Nat.pow 10 e.toNat
    else bound * Nat.pow 10 (-e).toNat ≤ m))

/-- Reads a number with a fraction, an exponent or both. -/
def finite : Reader Unit := fun cs => do
  let ((negative, ds), cs) ← signedDigits cs
  let ((f, e), cs) ← Reader.orElse (Reader.map (fun e => ([], e)) exponent)
    (fun cs => do
      let (f, cs) ← fraction cs
      let (e, cs) ← Reader.optional exponent cs
      return ((f, e.getD 0), cs)) cs
  if !negative && isTooLarge (valueOf 10 (ds ++ f)) (e - f.length) then none else some ((), cs)

/-- Reads a number that is none or has no end. -/
def special : Reader Unit := fun cs => do
  let (_, cs) ← sign cs
  Reader.orElse (Reader.word ['i', 'n', 'f']) (Reader.word ['n', 'a', 'n']) cs

/-! ## Dates and times -/

/-- Reads a number of exactly `count` digits from `low` to `high`. -/
def field (count low high : Nat) : Reader Nat := fun cs =>
  let ds := cs.take count
  let n := valueOf 10 ds
  if ds.length = count ∧ ds.all (isDigit 10) ∧ low ≤ n ∧ n ≤ high then some (n, cs.drop count) else none

/-- How many days a month has. -/
def daysIn (year month : Nat) : Nat :=
  if month = 2 then if year % 4 = 0 ∧ (year % 100 ≠ 0 ∨ year % 400 = 0) then 29 else 28
  else if month = 4 ∨ month = 6 ∨ month = 9 ∨ month = 11 then 30 else 31

/-- Reads a day. -/
def day : Reader Unit := fun cs => do
  let (y, cs) ← field 4 0 9999 cs
  let (_, cs) ← Reader.char '-' cs
  let (m, cs) ← field 2 1 12 cs
  let (_, cs) ← Reader.char '-' cs
  let (_, cs) ← field 2 1 (daysIn y m) cs
  return ((), cs)

/-- Reads an hour and a minute. -/
def hour : Reader Unit := fun cs => do
  let (_, cs) ← field 2 0 23 cs
  let (_, cs) ← Reader.char ':' cs
  let (_, cs) ← field 2 0 59 cs
  return ((), cs)

/-- Reads a time of day. -/
def time : Reader Unit := fun cs => do
  let (_, cs) ← hour cs
  let (_, cs) ← Reader.char ':' cs
  let (_, cs) ← field 2 0 60 cs
  match cs with
  | '.' :: r =>
    let (_, r) ← Reader.satisfy (isDigit 10) r
    return ((), r.dropWhile (isDigit 10))
  | _ => return ((), cs)

/-- Reads the offset of a time. -/
def offset : Reader Unit
  | 'Z' :: r | 'z' :: r => some ((), r)
  | '+' :: r | '-' :: r => hour r
  | _ => none

/-- Reads a time of day that follows a date. -/
def timeOfDay : Reader Unit := fun cs => do
  let (_, cs) ← Reader.satisfy (fun c => c = 'T' || c = 't' || c = ' ') cs
  let (_, cs) ← time cs
  let (_, cs) ← Reader.optional offset cs
  return ((), cs)

/-- Reads a date, a time of day or both. -/
def date : Reader Unit :=
  Reader.orElse (fun cs => do
    let (_, cs) ← day cs
    let (_, cs) ← Reader.optional timeOfDay cs
    return ((), cs)) time

/-! ## All together -/

/-- Reads a truth value. -/
def boolean : Reader Node :=
  Reader.orElse (Reader.map (fun _ => .boolean true) (Reader.word ['t', 'r', 'u', 'e']))
    (Reader.map (fun _ => .boolean false) (Reader.word ['f', 'a', 'l', 's', 'e']))

/-- Reads what a reader takes, as it is written. -/
def written (make : String → Node) (p : Reader Unit) : Reader Node :=
  Reader.map (fun cs => make (String.ofList cs)) (Reader.taken p)

/-- Reads a single value. -/
def value : Reader Node :=
  [Reader.map .text Quoted.text, boolean, written .date date,
    written .real (Reader.orElse finite special), integer].foldr Reader.orElse fun _ => none

end MeteredRelay.Toml.Scalar
