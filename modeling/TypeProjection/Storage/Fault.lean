/-
  Storage/Fault.lean --- why an operation on files fails.
-/

set_option autoImplicit false

namespace TypeProjection.Storage

/-- Why an operation on files fails. -/
inductive Fault where
  /-- nothing is there -/
  | notFound
  /-- something is there already -/
  | alreadyThere
  /-- a file stands where a directory has to be -/
  | notDirectory
  /-- a directory stands where a file has to be -/
  | isDirectory
  /-- a path or one of its steps has more bytes than the system takes -/
  | nameTooLong
  /-- a path has the character in it that ends the system's texts -/
  | nulInPath
  /-- the bytes of a file are no text -/
  | notText
  /-- any other cause, told by whoever met it -/
  | other (text : String)
  deriving DecidableEq, Repr, Inhabited

/-- What is told about a failed operation. -/
def Fault.message : Fault → String
  | .notFound => "No such file or directory (os error 2)"
  | .alreadyThere => "File exists (os error 17)"
  | .notDirectory => "Not a directory (os error 20)"
  | .isDirectory => "Is a directory (os error 21)"
  | .nameTooLong => "File name too long (os error 36)"
  | .nulInPath => "file name contained an unexpected NUL byte"
  | .notText => "stream did not contain valid UTF-8"
  | .other text => text

end TypeProjection.Storage
