/-
  Storage/Path.lean --- how files are named.

  A path is a text.  Read from slash to slash it is a list of steps that leads
  from the root, or from the directory that is worked in, to a file or a
  directory.
-/
import TypeProjection.Storage.Fault
import TypeProjection.Text.Split

set_option autoImplicit false

namespace TypeProjection.Storage

/-- A path. -/
structure Path where
  /-- The path as it is written. -/
  text : String
  deriving DecidableEq, Repr, Inhabited

namespace Path

/-- Whether the path leads from the root. -/
def isAbsolute (path : Path) : Bool :=
  path.text.toList.head? = some '/'

/-- The names between the slashes of a text, without empty ones. -/
def stepsIn (cs : List Char) : List String :=
  ((piecesBetween '/' cs).filter (! ·.isEmpty)).map String.ofList

/-- The names between the slashes, without empty ones. -/
def steps (path : Path) : List String :=
  stepsIn path.text.toList

/-- Whether the path ends with a slash. -/
def endsWithSlash (path : Path) : Bool :=
  path.text.toList.getLast? = some '/'

/-- The path with given steps, without a slash at its end. -/
def ofSteps (isAbsolute : Bool) (steps : List String) : Path where
  text := (if isAbsolute then "/" else "") ++ String.intercalate "/" steps

/-- Whether the path has no step and does not name the root. -/
def isEmpty (path : Path) : Bool :=
  path.text.isEmpty

/-! ## What the system takes -/

/-- The most bytes a path has. -/
def maxSize : Nat :=
  4095

/-- The most bytes a step has. -/
def maxStepSize : Nat :=
  255

/-- Whether a step has more bytes than a name may have. -/
def isTooLong (step : String) : Bool :=
  maxStepSize < step.utf8ByteSize

/-- What is wrong with a path wherever it leads.  The length of its steps is not
looked at before they are followed. -/
def fault? (path : Path) : Option Fault :=
  if '\x00' ∈ path.text.toList then some .nulInPath
  else if maxSize < path.text.utf8ByteSize then some .nameTooLong
  else none

/-! ## What a path lies in -/

/-- The steps that count when a path is shortened: a step that stays where it is
counts only at the beginning of a path that does not lead from the root. -/
def countedSteps (path : Path) : List String :=
  match path.steps with
  | [] => []
  | first :: rest =>
    if first = "." ∧ !path.isAbsolute then first :: rest.filter (· ≠ ".")
    else (first :: rest).filter (· ≠ ".")

/-- The beginnings of a list, without the list itself, longest first. -/
def shortened {α : Type} : List α → List (List α)
  | [] => []
  | x :: xs => (shortened xs).map (x :: ·) ++ [[]]

/-- A path and all that it lies in, from the inside. -/
def selfAndAncestors (path : Path) : List Path :=
  path :: (shortened path.countedSteps).map (ofSteps path.isAbsolute)

end Path

/-- The text of the path of a file in a directory.  A name that leads from the
root stands for itself. -/
def joinText (directory name : String) : String :=
  if name.toList.head? = some '/' then name
  else if directory = "" ∨ directory.toList.getLast? = some '/' then directory ++ name
  else directory ++ "/" ++ name

end TypeProjection.Storage
