import MeteredRelay.Bytes.Hex
import MeteredRelay.Text.Reader

/-!
# Quoted texts of TOML

A text stands between marks, `"` or `'`, one of them on each side or three.  Between three marks it
may have several lines, and up to two marks in a row.  After `"`, a backslash gives the next
characters another meaning; after `'` it is a character like others.  No control character stands
for itself but the tabulator and, between three marks, the line break.

Writing takes the first of five forms that holds the text without a change, or else writes it with
backslashes.
-/

namespace MeteredRelay.Toml.Quoted

open Text

/-! ## Reading -/

/-- Whether a character may stand for itself between marks. -/
def isPlain (c : Char) : Bool := c = '\t' || (' ' ≤ c && c != '\x7f')

/-- Reads a line break. -/
def lineBreak : Reader Unit := Reader.orElse (Reader.char '\n') (Reader.word ['\r', '\n'])

/-- Reads the character that `count` hexadecimal digits number. -/
def numbered (count : Nat) : Reader Char := fun cs => do
  let ds := (cs.take count).filterMap hexDigit?
  let n := ds.foldl (fun n d => 16 * n + d) 0
  if ds.length = count ∧ n.isValidChar then some (Char.ofNat n, cs.drop count) else none

/-- Reads the character that stands after a backslash. -/
def escaped : Reader Char
  | 'b' :: r => some ('\x08', r)
  | 't' :: r => some ('\t', r)
  | 'n' :: r => some ('\n', r)
  | 'f' :: r => some ('\x0c', r)
  | 'r' :: r => some ('\r', r)
  | '"' :: r => some ('"', r)
  | '\\' :: r => some ('\\', r)
  | 'u' :: r => numbered 4 r
  | 'U' :: r => numbered 8 r
  | _ => none

/-- Reads a character between marks. -/
def character (mark : Char) : Reader Char
  | [] => none
  | c :: r =>
    if c = mark then none
    else if c = '\\' ∧ mark = '"' then escaped r
    else if isPlain c then some (c, r) else none

/-- Reads a backslash at the end of a line and all white space up to the next character. -/
def foldedBreak : Reader (List Char) := fun cs => do
  let (_, cs) ← Reader.char '\\' cs
  let (_, cs) ← lineBreak (cs.dropWhile fun c => c = ' ' || c = '\t')
  let blank := Reader.orElse lineBreak (Reader.map (fun _ => ()) (Reader.satisfy fun c => c = ' ' || c = '\t'))
  return ([], (Reader.many blank cs).2)

/-- Reads marks that are too few to end a text of several lines. -/
def fewMarks (mark : Char) : Reader (List Char) := fun cs =>
  let marks := cs.takeWhile (· = mark)
  if marks.isEmpty || 3 ≤ marks.length then none else some (marks, cs.drop marks.length)

/-- Reads a piece of a text of several lines. -/
def piece (mark : Char) : Reader (List Char) :=
  Reader.orElse (Reader.map (fun _ => ['\n']) lineBreak) <|
    Reader.orElse (fewMarks mark) <|
      Reader.orElse (fun cs => if mark = '"' then foldedBreak cs else none)
        (Reader.map (fun c => [c]) (character mark))

/-- Reads a text of one line. -/
def line (mark : Char) : Reader String := fun cs => do
  let (_, cs) ← Reader.char mark cs
  let (l, cs) := Reader.many (character mark) cs
  let (_, cs) ← Reader.char mark cs
  return (String.ofList l, cs)

/-- Reads a text of several lines.  A line break right after the marks is not part of it, and of
more than three marks at the end two at most are. -/
def lines (mark : Char) : Reader String := fun cs => do
  let marks := List.replicate 3 mark
  let (_, cs) ← Reader.word marks cs
  let (_, cs) ← Reader.optional lineBreak cs
  let (l, cs) := Reader.many (piece mark) cs
  let more := min 2 ((cs.takeWhile (· = mark)).length - 3)
  let (_, cs) ← Reader.word marks (cs.drop more)
  return (String.ofList (l.flatten ++ List.replicate more mark), cs)

/-- Reads a quoted text of one line. -/
def name : Reader String := Reader.orElse (line '"') (line '\'')

/-- Reads a quoted text. -/
def text : Reader String := Reader.orElse (lines '"') (Reader.orElse (lines '\'') name)

/-! ## Writing -/

/-- How often `mark` stands in a row at most, `run` being the length of the row that it is in. -/
def longestRow (mark : Char) (run : Nat) : List Char → Nat
  | [] => run
  | c :: r => if c = mark then longestRow mark (run + 1) r else max run (longestRow mark 0 r)

/-- Whether a character is written with a backslash wherever it stands. -/
def isControl (c : Char) : Bool := c != '\n' && !isPlain c

/-- A character as it is written after a backslash, if it is one of those. -/
def escape? : Char → Option String
  | '\x08' => some "\\b"
  | '\t' => some "\\t"
  | '\x0c' => some "\\f"
  | '\r' => some "\\r"
  | '\\' => some "\\\\"
  | c => if isControl c then some ("\\u" ++ (paddedHexOfNat 4 c.toNat).toUpper) else none

/-- The text between `"`, of which `allowed` in a row are written as they are; `row` of them stand
in front. -/
def between (allowed : Nat) (row : Nat) : List Char → String
  | [] => ""
  | '"' :: r =>
    if row < allowed then "\"" ++ between allowed (row + 1) r else "\\\"" ++ between allowed 0 r
  | '\n' :: r => (if 0 < allowed then "\n" else "\\n") ++ between allowed 0 r
  | c :: r => (escape? c).getD (String.singleton c) ++ between allowed 0 r

/-- A text in quotes. -/
def ofText (s : String) : String :=
  let cs := s.toList
  let (double, single) := (longestRow '"' 0 cs, longestRow '\'' 0 cs)
  let (control, slash, breaks) := (cs.any isControl, cs.contains '\\', cs.contains '\n')
  let start := if breaks then "\n" else ""
  let manyLines := "\"\"\"" ++ start ++ between 2 0 cs ++ "\"\"\""
  if !control && !slash && double = 0 && !breaks then "\"" ++ between 0 0 cs ++ "\""
  else if !control && single = 0 && !breaks then "'" ++ s ++ "'"
  else if !control && !slash && double ≤ 2 then manyLines
  else if !control && single ≤ 2 then "'''" ++ start ++ s ++ "'''"
  else if breaks then manyLines
  else "\"" ++ between 0 0 cs ++ "\""

end MeteredRelay.Toml.Quoted
