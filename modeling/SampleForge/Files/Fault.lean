/-!
# Why a file operation fails

The refusals of the file system, with their numbers and wordings, and the refusals of this
library's own rules for output paths.
-/

namespace SampleForge

/-- A refusal of the file system. -/
inductive SystemFault where
  /-- Something on the way does not exist. -/
  | notFound
  /-- Something is in the place of what should be made. -/
  | alreadyExists
  /-- Something on the way is a file. -/
  | notADirectory
  /-- A directory is in the place of a file. -/
  | isADirectory
  /-- A name is longer than 255 bytes, or a path than 4,095. -/
  | nameTooLong
  /-- A name holds the character zero. -/
  | zeroInName
  deriving DecidableEq, Repr

/-- The wording of a refusal. -/
def SystemFault.message : SystemFault → String
  | .notFound => "No such file or directory (os error 2)"
  | .alreadyExists => "File exists (os error 17)"
  | .notADirectory => "Not a directory (os error 20)"
  | .isADirectory => "Is a directory (os error 21)"
  | .nameTooLong => "File name too long (os error 36)"
  | .zeroInName => "file name contained an unexpected NUL byte"

/-- A reason why a file cannot be read or written. -/
inductive FileFault where
  /-- The file system refuses. -/
  | system (fault : SystemFault)
  /-- The file is not text. -/
  | notText
  /-- An output path leads out of the output directory. -/
  | escapes (path : String)
  /-- An output path has no segment. -/
  | namesNothing (path : String)
  /-- A reason told by someone else. -/
  | told (reason : String)
  deriving DecidableEq, Repr

/-- The wording of a reason. -/
def FileFault.message : FileFault → String
  | .system fault => fault.message
  | .notText => "stream did not contain valid UTF-8"
  | .escapes path => "Output path escapes output directory: " ++ path
  | .namesNothing path => "Output path names no file: '" ++ path ++ "'"
  | .told reason => reason

end SampleForge
