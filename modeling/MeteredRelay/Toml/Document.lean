import MeteredRelay.Toml.Scalar

/-!
# TOML documents

A document is a sequence of lines.  A line gives a value to a name, starts the part of the document
that belongs to a table, or is blank; a comment may end it.  Values that hold others may have
several lines if they are lists, and nest less than eighty deep; no more names are dotted together.

* **`Toml.value`** reads any value, by recursion on the depth that is left.
* **`Toml.parse?`** is the table that a whole text writes.
-/

namespace MeteredRelay.Toml

open Text

/-! ## Blanks and names -/

/-- Whether a character is white space inside a line. -/
def isSpace (c : Char) : Bool := c = ' ' || c = '\t'

/-- What follows the white space inside a line. -/
def skipSpace (cs : List Char) : List Char := cs.dropWhile isSpace

/-- Reads a comment up to the end of its line. -/
def comment : Reader Unit := fun cs => do
  let (_, cs) ← Reader.char '#' cs
  return ((), cs.dropWhile Quoted.isPlain)

/-- Reads the rest of a line that holds nothing more. -/
def endOfLine : Reader Unit := fun cs => do
  let (_, cs) ← Reader.optional comment (skipSpace cs)
  if cs.isEmpty then return ((), cs)
  Quoted.lineBreak cs

/-- What follows the blanks, line breaks and comments at the start of a text. -/
def skipLines (cs : List Char) : List Char :=
  let blank := Reader.orElse (Reader.map (fun _ => ()) (Reader.satisfy isSpace))
    (Reader.orElse Quoted.lineBreak comment)
  (Reader.many blank cs).2

/-- How deep values nest and how many names are dotted together, and no more. -/
def maxDepth : Nat := 79

/-- Whether a character stands in a name without quotes. -/
def isBare (c : Char) : Bool := c.isAlphanum || c = '_' || c = '-'

/-- Reads one name. -/
def name : Reader String :=
  Reader.orElse Quoted.name fun cs => do
    let (c, cs) ← Reader.satisfy isBare cs
    return (String.ofList (c :: cs.takeWhile isBare), cs.dropWhile isBare)

/-- Reads dotted names: those on the way, and the last one. -/
def path : Reader (List String × String) := fun cs => do
  let spaced : Reader String := fun cs => (name (skipSpace cs)).map fun (n, r) => (n, skipSpace r)
  let (names, cs) ← Reader.separated spaced (Reader.char '.') cs
  if maxDepth < names.length then none
  return ((names.dropLast, ← names.getLast?), cs)

/-! ## Values -/

/-- Reads a name, an equals sign and a value. -/
def entry (item : Reader Node) : Reader ((List String × String) × Node) := fun cs => do
  let (p, cs) ← path cs
  let (_, cs) ← Reader.char '=' cs
  let (v, cs) ← item (skipSpace cs)
  return ((p, v), cs)

/-- Reads a list. -/
def list (item : Reader Node) : Reader Node := fun cs => do
  let (_, cs) ← Reader.char '[' cs
  let spaced : Reader Node := fun cs => (item (skipLines cs)).map fun (v, r) => (v, skipLines r)
  let comma := Reader.char ','
  let items := Reader.map (fun (l, _) => l) fun cs => do
    let (l, cs) ← Reader.separated spaced comma cs
    let (c, cs) ← Reader.optional comma cs
    return ((l, c), cs)
  let (l, cs) ← Reader.optional items cs
  let (_, cs) ← Reader.char ']' (skipLines cs)
  return (.list (l.getD []), cs)

/-- The table that entries make up when they are assigned in order. -/
def assignAll (entries : List ((List String × String) × Node)) : Option Table :=
  entries.foldlM (fun t ((way, n), v) => t.assign n v way) []

/-- Reads a table that is written as a value. -/
def inlineTable (item : Reader Node) : Reader Node := fun cs => do
  let (_, cs) ← Reader.char '\x7b' cs
  let spaced := fun cs => (entry item cs).map fun (e, r) => (e, skipSpace r)
  let (l, cs) ← Reader.optional (Reader.separated spaced (Reader.char ',')) cs
  let (_, cs) ← Reader.char '\x7d' (skipSpace cs)
  return (.table .inline (← assignAll (l.getD [])), cs)

/-- Reads a value in which `depth` others may nest. -/
def value : (depth : Nat) → Reader Node
  | 0 => Scalar.value
  | depth + 1 =>
    Reader.orElse Scalar.value (Reader.orElse (list (value depth)) (inlineTable (value depth)))

/-! ## Lines -/

/-- What a line says. -/
inductive Line where
  | blank
  /-- The part of a table starts here. -/
  | header (way : List String) (name : String)
  /-- The part of a further table of a list starts here. -/
  | row (way : List String) (name : String)
  | entry (way : List String) (name : String) (v : Node)

/-- Reads a path between the given texts. -/
def bracketed (first last : List Char) : Reader (List String × String) := fun cs => do
  let (_, cs) ← Reader.word first cs
  let (p, cs) ← path cs
  let (_, cs) ← Reader.word last cs
  return (p, cs)

/-- Reads what a line says, except for blank ones. -/
def statement : Reader Line := fun cs =>
  match cs with
  | '[' :: '[' :: _ => Reader.map (fun (way, n) => .row way n) (bracketed ['[', '['] [']', ']']) cs
  | '[' :: _ => Reader.map (fun (way, n) => .header way n) (bracketed ['['] [']']) cs
  | _ => Reader.map (fun ((way, n), v) => .entry way n v) (entry (value maxDepth)) cs

/-- Reads a line. -/
def line : Reader Line := fun cs => do
  let (l, cs) ← Reader.orElse statement (fun cs => some (.blank, cs)) (skipSpace cs)
  let (_, cs) ← endOfLine cs
  return (l, cs)

/-- The document and the path of the table whose part it is in after a line. -/
def Line.apply : Table × List String → Line → Option (Table × List String)
  | s, .blank => some s
  | (t, _), .header way n => do return (← t.within (·.layOut n) way, way ++ [n])
  | (t, _), .row way n => do return (← t.within (·.addRow n) way, way ++ [n])
  | (t, current), .entry way n v => do return (← t.within (·.assign n v way) current, current)

/-- The table that a text writes.  A byte order mark may stand in front. -/
def parse? (s : String) : Option Table := do
  let cs := s.toList
  let (ls, rest) := Reader.many line (if cs.head? = some '\ufeff' then cs.tail else cs)
  if rest.isEmpty then (·.1) <$> ls.foldlM Line.apply ([], []) else none

end MeteredRelay.Toml
