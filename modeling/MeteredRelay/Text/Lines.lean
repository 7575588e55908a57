import MeteredRelay.Text.Blank

/-!
# Lines

A text is a list of lines.  A line break ends the line before it, so the one at the end of a text
starts no further line.

The main statement is that lines written one after the other, each with its line break, are read
back (**`lines_joinLines`**).
-/

namespace MeteredRelay.Text

/-- The lines of `cs`, given the characters `line` of the first one already read, last one first. -/
def linesAfter (line : List Char) : List Char → List (List Char)
  | [] => if line.isEmpty then [] else [line.reverse]
  | c :: r => if c = '\n' then line.reverse :: linesAfter [] r else linesAfter (c :: line) r

/-- The lines of a text. -/
def lines (cs : List Char) : List (List Char) := linesAfter [] cs

/-- Lines, each with its line break. -/
def joinLines (ls : List (List Char)) : List Char := ls.flatMap (· ++ ['\n'])

/-- The text before and after the first `c`, if there is one. -/
def cutAt (c : Char) : List Char → Option (List Char × List Char)
  | [] => none
  | x :: r => if x = c then some ([], r) else (cutAt c r).map fun (a, b) => (x :: a, b)

/-- The text, with spaces in front of it to fill `width` characters. -/
def padStart (width : Nat) (s : String) : String :=
  String.ofList (List.replicate (width - s.length) ' ') ++ s

/-- The text, with spaces after it to fill `width` characters. -/
def padEnd (width : Nat) (s : String) : String :=
  s ++ String.ofList (List.replicate (width - s.length) ' ')

theorem linesAfter_append (line l r : List Char) (h : '\n' ∉ l) :
    linesAfter line (l ++ '\n' :: r) = (line.reverse ++ l) :: linesAfter [] r := by
  induction l generalizing line with
  | nil => simp [linesAfter]
  | cons c l ih =>
    have hc : c ≠ '\n' := fun e => h (by simp [e])
    have hl : '\n' ∉ l := fun m => h (List.mem_cons_of_mem _ m)
    simp [linesAfter, hc, ih _ hl]

/-- Lines without a line break inside are read back. -/
theorem lines_joinLines {ls : List (List Char)} (h : ∀ l ∈ ls, '\n' ∉ l) :
    lines (joinLines ls) = ls := by
  induction ls with
  | nil => rfl
  | cons l ls ih =>
    have hl : '\n' ∉ l := h l (by simp)
    have hls : lines (joinLines ls) = ls := ih fun x m => h x (List.mem_cons_of_mem _ m)
    rw [joinLines, List.flatMap_cons, List.append_assoc, lines, List.singleton_append,
      linesAfter_append _ _ _ hl]
    exact congrArg (l :: ·) hls

end MeteredRelay.Text
