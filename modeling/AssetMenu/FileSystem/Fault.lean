/-!
# Why a file operation fails

The ways in which an operation on files and directories can fail, and the texts
that report them.
-/

namespace AssetMenu

/-- The cause of a failed file operation. -/
inductive Fault where
  /-- A component of the path does not exist. -/
  | notFound
  /-- Something is in the way that is not a directory. -/
  | notDirectory
  /-- A file is needed where a directory stands. -/
  | isDirectory
  /-- The place is taken. -/
  | alreadyExists
  /-- A dot or two dots cannot be replaced. -/
  | busy
  /-- The path is longer than a path may be, or a component of it than a name. -/
  | nameTooLong
  /-- The path holds a NUL character, which no name can hold. -/
  | nulCharacter
  /-- The content of a file is not text in UTF-8. -/
  | notText
  deriving DecidableEq, Repr

/-- The text that reports a fault. -/
def Fault.message : Fault → String
  | .notFound => "No such file or directory (os error 2)"
  | .notDirectory => "Not a directory (os error 20)"
  | .isDirectory => "Is a directory (os error 21)"
  | .alreadyExists => "File exists (os error 17)"
  | .busy => "Device or resource busy (os error 16)"
  | .nameTooLong => "File name too long (os error 36)"
  | .nulCharacter => "file name contained an unexpected NUL byte"
  | .notText => "stream did not contain valid UTF-8"

end AssetMenu
