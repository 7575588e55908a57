/-!
# Faults of files

Why a file could not be read, written or made, in the system's words.
-/

namespace MeteredRelay

/-- Why a file could not be read or written. -/
inductive FileFault where
  /-- There is no such file. -/
  | notFound
  /-- The path names a directory. -/
  | isDirectory
  /-- The path leads through a file. -/
  | notDirectory
  /-- There is something already where a directory is to be made. -/
  | inTheWay
  /-- A name in the path is too long. -/
  | nameTooLong
  /-- The file may not be touched. -/
  | permissionDenied
  /-- The file's bytes are no text. -/
  | notText
  /-- Anything else, in the system's words. -/
  | other (text : String)
deriving DecidableEq

namespace FileFault

/-- The fault in words. -/
def message : FileFault → String
  | notFound => "No such file or directory (os error 2)"
  | isDirectory => "Is a directory (os error 21)"
  | notDirectory => "Not a directory (os error 20)"
  | inTheWay => "File exists (os error 17)"
  | nameTooLong => "File name too long (os error 36)"
  | permissionDenied => "Permission denied (os error 13)"
  | notText => "stream did not contain valid UTF-8"
  | other t => t

end FileFault

end MeteredRelay
