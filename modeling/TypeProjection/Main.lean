/-
  Main.lean --- the command line program.

  What a command line asks for, what is generated and every text that is told
  are decided by the modules below; here files are read and written.
-/
import TypeProjection.Command.Run

set_option autoImplicit false

namespace TypeProjection.Command

open Storage (Fault FileOperations)

/-- The fault that a code of the system stands for.  The system gives its code as
it is or with its sign turned. -/
def faultOfCode? (code : UInt32) : Option Fault :=
  if code = 20 ∨ code + 20 = 0 then some .notDirectory
  else if code = 21 ∨ code + 21 = 0 then some .isDirectory
  else if code = 36 ∨ code + 36 = 0 then some .nameTooLong
  else none

/-- What a failure of the system is to the program. -/
def faultOfSystem (e : IO.Error) : Fault :=
  match e with
  | .noFileOrDirectory .. => .notFound
  | .alreadyExists .. => .alreadyThere
  | .inappropriateType _ code _ | .invalidArgument _ code _ =>
    (faultOfCode? code).getD (.other (toString e))
  | _ => .other (toString e)

/-- Carries out an action and tells why it failed. -/
def attempt {α : Type} (action : IO α) : IO (Except Fault α) := do
  try
    return .ok (← action)
  catch e => return .error (faultOfSystem e)

/-- The text that bytes are. -/
def textOfBytes (bytes : ByteArray) : Except Fault String :=
  match String.fromUTF8? bytes with
  | some text => .ok text
  | none => .error .notText

/-- The operations on files as the system carries them out.  A path that no
operation of the system takes leads to no directory. -/
def diskOperations : FileOperations IO where
  readText path := return (← attempt (IO.FS.readBinFile path.text)).bind textOfBytes
  writeText path text := attempt (IO.FS.writeFile path.text text)
  makeDirectory path := attempt (IO.FS.createDir path.text)
  isDirectory path := do
    if path.fault?.isSome then return false
    try (← IO.FS.realPath path.text).isDir catch _ => return false

/-- Tells what a run answers, and what arguments there are if those that were given
make no sense. -/
def Answer.tell (answer : Answer) : IO UInt32 := do
  IO.print answer.stdout
  if let some text := answer.loggedError then
    IO.eprintln text
  if answer = .misuse then
    IO.eprint helpText
  return answer.exitCode

end TypeProjection.Command

open TypeProjection.Command in
/-- Carries out what the command line asks for. -/
def main (arguments : List String) : IO UInt32 := do
  (← runThrough diskOperations arguments).tell
