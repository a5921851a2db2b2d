/-
  Storage/Operations.lean --- the operations on files that a program asks for.

  What a program does with files is written over these operations, whatever
  carries them out: the system, or a value that stands for all files
  (`FileSystem.operations`).
-/
import TypeProjection.Storage.Path

set_option autoImplicit false

namespace TypeProjection.Storage

/-- The operations on files, each with what it answers. -/
structure FileOperations (m : Type → Type) where
  /-- The text of a file. -/
  readText : Path → m (Except Fault String)
  /-- Writes a text to a file, which is made if it is not there. -/
  writeText : Path → String → m (Except Fault Unit)
  /-- Makes one directory in a directory that is there. -/
  makeDirectory : Path → m (Except Fault Unit)
  /-- Whether a path leads to a directory. -/
  isDirectory : Path → m Bool

namespace FileOperations

variable {m : Type → Type} [Monad m] (files : FileOperations m)

/-- What remains of a fault when all that was asked for is that a directory is
there. -/
def unlessDirectory (path : Path) (fault : Fault) : m (Option Fault) := do
  return if ← files.isDirectory path then none else some fault

/-- Makes the first directory of a list, where each lies in the next one; if that
is not there, it is made before. -/
def makeFrom : List Path → m (Option Fault)
  | [] => return none
  | path :: ancestors => do
    if path.isEmpty then return none
    match ← files.makeDirectory path with
    | .ok () => return none
    | .error .notFound =>
      match ← makeFrom ancestors with
      | some fault => return some fault
      | none =>
        match ← files.makeDirectory path with
        | .ok () => return none
        | .error fault => files.unlessDirectory path fault
    | .error fault => files.unlessDirectory path fault

/-- Makes a directory and all those around it that are not there. -/
def makeDirectories (path : Path) : m (Option Fault) :=
  files.makeFrom path.selfAndAncestors

end FileOperations

end TypeProjection.Storage
