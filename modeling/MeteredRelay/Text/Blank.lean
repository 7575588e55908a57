/-!
# White space

Keys, key files and tables are read with the white space around and between their parts ignored.
White space is the Unicode property `White_Space`: twenty-five characters, which `Text.blanks`
lists in order.
-/

namespace MeteredRelay.Text

/-- The code points with the property `White_Space`. -/
def blanks : List Nat :=
  [0x09, 0x0a, 0x0b, 0x0c, 0x0d, 0x20, 0x85, 0xa0, 0x1680, 0x2000, 0x2001, 0x2002, 0x2003, 0x2004,
    0x2005, 0x2006, 0x2007, 0x2008, 0x2009, 0x200a, 0x2028, 0x2029, 0x202f, 0x205f, 0x3000]

/-- Whether a character is white space. -/
def isBlank (c : Char) : Bool := blanks.contains c.toNat

/-- The characters without the white space at their start. -/
def trimStart (cs : List Char) : List Char := cs.dropWhile isBlank

/-- The characters without the white space at their start and their end. -/
def trim (cs : List Char) : List Char := (trimStart (trimStart cs).reverse).reverse

/-- The words of `cs`, given the characters `word` of the first one already read, last one first. -/
def wordsAfter (isGap : Char → Bool) (word : List Char) : List Char → List (List Char)
  | [] => if word.isEmpty then [] else [word.reverse]
  | c :: r =>
    if isGap c then
      if word.isEmpty then wordsAfter isGap [] r else word.reverse :: wordsAfter isGap [] r
    else wordsAfter isGap (c :: word) r

/-- The longest runs of characters that are no gap, in order. -/
def wordsBy (isGap : Char → Bool) (cs : List Char) : List (List Char) := wordsAfter isGap [] cs

/-- The longest runs of characters that are no white space, in order. -/
def words (cs : List Char) : List (List Char) := wordsBy isBlank cs

/-- Every blank of the ASCII range that is commonly called one is white space. -/
theorem isBlank_of_isWhitespace {c : Char} (h : c.isWhitespace = true) : isBlank c = true := by
  simp only [Char.isWhitespace, Bool.or_eq_true, decide_eq_true_eq] at h
  rcases h with ((h | h) | h) | h <;> subst h <;> decide

end MeteredRelay.Text
