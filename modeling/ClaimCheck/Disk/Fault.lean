/-!
# Faults of a file system

Why a file system refuses a request, with the wording of each refusal.
-/

namespace ClaimCheck.Disk

/-- Why a request to a file system fails. -/
inductive Fault where
  | notFound
  | alreadyExists
  | notDirectory
  | isDirectory
  | nameTooLong
  | fileTooLarge
  | directoryNotEmpty
  | nulInName
  | notText
  | other (text : String)
deriving DecidableEq, Repr

/-- The wording of a fault. -/
def Fault.message : Fault → String
  | .notFound => "No such file or directory (os error 2)"
  | .alreadyExists => "File exists (os error 17)"
  | .notDirectory => "Not a directory (os error 20)"
  | .isDirectory => "Is a directory (os error 21)"
  | .nameTooLong => "File name too long (os error 36)"
  | .fileTooLarge => "File too large (os error 27)"
  | .directoryNotEmpty => "Directory not empty (os error 39)"
  | .nulInName => "file name contained an unexpected NUL byte"
  | .notText => "stream did not contain valid UTF-8"
  | .other text => text

end ClaimCheck.Disk
