import MeteredRelay.Files.Fault
import MeteredRelay.Text.Blank

/-!
# Paths

A path is the names between its slashes, from the root if it begins with a slash and else from the
working directory.  A name may be a dot, which stays where it is, or two dots, which lead back.
Slashes may stand in a row; whether one ends the path matters, since it then has to be a
directory's.

**`Path.outer?`** is the path without its last name.  Dots do not count as names there, and so the
directory that `a/./b/.` lies in is `a`.
-/

namespace MeteredRelay

/-- A path, taken apart. -/
structure Path where
  /-- Whether it begins at the root. -/
  isAbsolute : Bool
  /-- The names between the slashes. -/
  names : List String
  /-- Whether a slash ends it. -/
  endsInSlash : Bool
deriving DecidableEq

namespace Path

/-- The bytes that a path may have, the one that ends it in memory included. -/
def maxSize : Nat := 4096

/-- The bytes that a name may have. -/
def maxNameSize : Nat := 255

/-- The path that a text is, if it can be one. -/
def ofText (text : String) : Except FileFault Path :=
  let cs := text.toList
  if cs.isEmpty then .error .notFound
  else if cs.contains '\x00' then .error (.other "file name contained an unexpected NUL byte")
  else if maxSize ≤ text.utf8ByteSize then .error .nameTooLong
  else .ok
    { isAbsolute := cs.head? == some '/'
      names := (Text.wordsBy (· == '/') cs).map String.ofList
      endsInSlash := cs.getLast? == some '/' }

/-- The path as a text. -/
def text (p : Path) : String :=
  (if p.isAbsolute then "/" else "") ++ "/".intercalate p.names ++
    (if p.endsInSlash && !p.names.isEmpty then "/" else "")

/-- The names but the dots. -/
def steps (p : Path) : List String := p.names.filter (· ≠ ".")

/-- The path without its last name, if it leads through a directory at all. -/
def outer? (p : Path) : Option Path :=
  if p.steps.dropLast.isEmpty then none else some ⟨p.isAbsolute, p.steps.dropLast, false⟩

end Path

end MeteredRelay
