/-
  Command/Run.lean --- what a command line does.

  A run is written over the operations on files.  With files as a value it is a
  function of what is there and of its arguments.
-/
import TypeProjection.Command.Help
import TypeProjection.Command.Options
import TypeProjection.Projection.Files
import TypeProjection.Text.Terminal

set_option autoImplicit false

namespace TypeProjection.Command

open Projection (GenerateError Output generateFromFiles generateThrough)
open Storage (FileOperations FileSystem)

/-- What a run answers. -/
structure Answer where
  /-- The exit code. -/
  exitCode : UInt32
  /-- What is printed. -/
  stdout : String
  /-- The error that is reported, with all its causes. -/
  loggedError : Option String
  deriving DecidableEq, Repr

/-- A run that does what it is asked for. -/
def Answer.success (stdout : String) : Answer :=
  ⟨0, stdout, none⟩

/-- A failure with all its causes, from the outermost one in. -/
def describeFailure (context : String) (e : GenerateError) : String :=
  String.intercalate ": " (context :: e.message :: e.sources)

/-- A failure as it is reported.  It quotes texts that come from anywhere, and is
read on terminals. -/
def reportText (context : String) (e : GenerateError) : String :=
  terminalSafe (describeFailure context e)

/-- A run that fails. -/
def Answer.failure (context : String) (e : GenerateError) : Answer :=
  ⟨1, "", some (reportText context e)⟩

/-- A run whose arguments make no sense. -/
def Answer.misuse : Answer :=
  ⟨2, "", none⟩

/-- The failure to generate from a schema file. -/
def generateContext (schema : String) : String :=
  s!"failed to generate from '{schema}'"

/-- The failure to write the generated files. -/
def writeContext : String :=
  "failed to write generated files"

/-- Both texts as they are shown, one behind the other. -/
def shownText (output : Output) : String :=
  output.idl.text ++ output.native.text

section Operations

variable {m : Type → Type} [Monad m] (files : FileOperations m)

/-- Shows both texts, or writes them into the directory that is asked for. -/
def Options.deliver (options : Options) (output : Output) : m Answer :=
  match options.destination with
  | none => return .success (shownText output)
  | some directory => do
    match ← (output.writeThrough files directory options.stem).run with
    | .error e => return .failure writeContext e
    | .ok _ => return .success ""

/-- Carries out a run. -/
def Options.runThrough (options : Options) : m Answer := do
  match ← (generateThrough files options.schema options.overrides options.config).run with
  | .error e => return .failure (generateContext options.schema) e
  | .ok output => options.deliver files output

/-- Carries out what a command line asks for. -/
def runThrough (arguments : List String) : m Answer :=
  match Request.ofArguments arguments with
  | .help => return .success helpText
  | .misuse => return .misuse
  | .run options => options.runThrough files

end Operations

/-! ## Files as a value -/

/-- All that can be seen of a run. -/
structure Outcome extends Answer where
  /-- What is there afterwards. -/
  files : FileSystem
  deriving DecidableEq, Repr

/-- What can be seen of an action on the files that are there. -/
def Outcome.ofAction (action : StateM FileSystem Answer) (fs : FileSystem) : Outcome :=
  ⟨(fs.after action).2, (fs.after action).1⟩

/-- Carries out a run. -/
def Options.run (options : Options) (fs : FileSystem) : Outcome :=
  .ofAction (options.runThrough FileSystem.operations) fs

/-- Carries out what a command line asks for. -/
def run (arguments : List String) (fs : FileSystem) : Outcome :=
  .ofAction (runThrough FileSystem.operations arguments) fs

theorem Options.run_eq (options : Options) (fs : FileSystem) :
    options.run fs =
      match generateFromFiles fs options.schema options.overrides options.config with
      | .error e => ⟨.failure (generateContext options.schema) e, fs⟩
      | .ok output =>
        match options.destination with
        | none => ⟨.success (shownText output), fs⟩
        | some directory =>
          match output.writeTo fs directory options.stem with
          | (fs', .error e) => ⟨.failure writeContext e, fs'⟩
          | (fs', .ok _) => ⟨.success "", fs'⟩ := by
  have hgenerated : fs.after (generateThrough FileSystem.operations options.schema
      options.overrides options.config).run =
      (fs, generateFromFiles fs options.schema options.overrides options.config) := by
    rw [Projection.after_generateThrough, Projection.generateFromFiles_eq]
  rw [run, Outcome.ofAction, runThrough, FileSystem.after_bind, hgenerated]
  cases generateFromFiles fs options.schema options.overrides options.config with
  | error e => rfl
  | ok output =>
    dsimp only [deliver]
    cases options.destination with
    | none => rfl
    | some directory =>
      dsimp only
      rw [FileSystem.after_bind, ← Output.writeTo]
      rcases output.writeTo fs directory options.stem with ⟨fs', e | paths⟩ <;> rfl

end TypeProjection.Command
