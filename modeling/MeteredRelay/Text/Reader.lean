/-!
# Readers

A reader takes something from the start of a text and gives it with the rest of the text, or finds
that the text does not start with what it reads.  Readers are plain functions, so a longer one is
written by handing the rest of each part to the next.

* **`Reader.orElse`** tries a second reader where the first finds nothing.
* **`Reader.many`** repeats a reader for as long as it takes something, so it always ends
  (**`Reader.length_many_le`**).
* **`Reader.separated`** reads items with something between them, and nothing after the last one.
-/

namespace MeteredRelay.Text

/-- What a reader takes from the start of a text, and the rest. -/
abbrev Reader (α : Type) := List Char → Option (α × List Char)

namespace Reader

/-- Reads one given character. -/
def char (c : Char) : Reader Unit
  | x :: r => if x = c then some ((), r) else none
  | [] => none

/-- Reads one character that passes a test. -/
def satisfy (accepts : Char → Bool) : Reader Char
  | x :: r => if accepts x then some (x, r) else none
  | [] => none

/-- Reads a given text. -/
def word : List Char → Reader Unit
  | [], cs => some ((), cs)
  | c :: w, cs => (char c cs).bind fun (_, r) => word w r

/-- What the second reader finds where the first finds nothing. -/
def orElse (p q : Reader α) : Reader α := fun cs =>
  match p cs with
  | some found => some found
  | none => q cs

/-- What `f` makes of that which is read. -/
def map (f : α → β) (p : Reader α) : Reader β := fun cs => (p cs).map fun (a, r) => (f a, r)

/-- Reads what is there or nothing. -/
def optional (p : Reader α) : Reader (Option α) := orElse (map some p) fun cs => some (none, cs)

/-- The characters that a reader takes. -/
def taken (p : Reader α) : Reader (List Char) := fun cs =>
  (p cs).map fun (_, r) => (cs.take (cs.length - r.length), r)

/-- All that a reader takes one after the other, and the rest. -/
def many (p : Reader α) (cs : List Char) : List α × List Char :=
  match p cs with
  | none => ([], cs)
  | some (a, r) =>
    if r.length < cs.length then
      let (l, rest) := many p r
      (a :: l, rest)
    else ([], cs)
termination_by cs.length

/-- Reads items, at least one, with `between` between every two. -/
def separated (item : Reader α) (between : Reader β) : Reader (List α) := fun cs => do
  let (a, cs) ← item cs
  let (l, cs) := many (fun cs => do item (← between cs).2) cs
  return (a :: l, cs)

/-- Repeating a reader gives nothing back to the text. -/
theorem length_many_le (p : Reader α) (cs : List Char) : (many p cs).2.length ≤ cs.length := by
  fun_induction many p cs with
  | case1 => simp
  | case2 cs a r _ hr l rest hl ih =>
    rw [hl] at ih
    simp only at ih ⊢
    omega
  | case3 => simp

end Reader

end MeteredRelay.Text
