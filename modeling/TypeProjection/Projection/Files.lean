/-
  Projection/Files.lean --- generating from files and into files.

  All input is read before anything is generated, and nothing is written unless
  the generation succeeds.  Both are written over the operations on files, and
  are functions of what is there if the operations are.
-/
import TypeProjection.Projection.Generation
import TypeProjection.Storage.FileSystem

set_option autoImplicit false

namespace TypeProjection.Projection

open Storage (FileOperations FileSystem joinText)

/-- The paths of the two generated files. -/
structure OutputPaths where
  /-- The path of the interface definitions. -/
  idl : String
  /-- The path of the native wrappers. -/
  native : String
  deriving DecidableEq, Repr, Inhabited

/-- The paths of the files with a given stem in a directory. -/
def OutputPaths.ofStem (directory stem : String) : OutputPaths :=
  ⟨joinText directory (stem ++ ".idl"), joinText directory (stem ++ ".h")⟩

section Operations

variable {m : Type → Type} [Monad m] (files : FileOperations m)

/-- The text of an input file. -/
def readInput (path : String) : ExceptT GenerateError m String :=
  .mk do return (← files.readText ⟨path⟩).mapError .input

/-- The text of an input file that may not be asked for. -/
def readInputIfAny : Option String → ExceptT GenerateError m (Option String)
  | some path => some <$> readInput files path
  | none => return none

/-- Generates both texts from a schema file and, if there is one, an override
file. -/
def generateThrough (schemaPath : String) (overridesPath : Option String) (config : Config) :
    ExceptT GenerateError m Output := do
  let schemaText ← readInput files schemaPath
  let overridesText ← readInputIfAny files overridesPath
  generateFromTexts schemaText overridesText config

/-- Makes the directory that files are written into. -/
def makeOutputDirectory (directory : String) : ExceptT GenerateError m Unit :=
  .mk do
    match ← files.makeDirectories ⟨directory⟩ with
    | some fault => return .error (.output directory fault)
    | none => return .ok ()

/-- Writes one of the files. -/
def writeFile (path text : String) : ExceptT GenerateError m Unit :=
  .mk do return (← files.writeText ⟨path⟩ text).mapError (.output path)

/-- Writes both texts into a directory, which is made if it is not there.  The
first thing that fails ends the writing and undoes nothing. -/
def Output.writeThrough (output : Output) (directory stem : String) :
    ExceptT GenerateError m OutputPaths := do
  makeOutputDirectory files directory
  let paths := OutputPaths.ofStem directory stem
  writeFile files paths.idl output.idl.text
  writeFile files paths.native output.native.text
  return paths

end Operations

/-! ## Files as a value -/

/-- What is there after an action that may fail and another one behind it. -/
theorem after_bind {α β : Type} (fs : FileSystem)
    (action : ExceptT GenerateError (StateM FileSystem) α)
    (next : α → ExceptT GenerateError (StateM FileSystem) β) :
    fs.after (action >>= next).run =
      match fs.after action.run with
      | (fs', .error e) => (fs', .error e)
      | (fs', .ok a) => fs'.after (next a).run := by
  rw [ExceptT.run_bind, FileSystem.after_bind]
  rcases fs.after action.run with ⟨fs', e | a⟩ <;> rfl

/-- Generates both texts from the files that are there. -/
def generateFromFiles (fs : FileSystem) (schemaPath : String) (overridesPath : Option String)
    (config : Config) : Except GenerateError Output :=
  (fs.after (generateThrough FileSystem.operations schemaPath overridesPath config).run).2

/-- The text of an input file that is there. -/
def inputText (fs : FileSystem) (path : String) : Except GenerateError String :=
  (fs.readText ⟨path⟩).mapError .input

theorem after_readInput (fs : FileSystem) (path : String) :
    fs.after (readInput FileSystem.operations path).run = (fs, inputText fs path) :=
  rfl

theorem after_readInputIfAny (fs : FileSystem) (path? : Option String) :
    fs.after (readInputIfAny FileSystem.operations path?).run =
      (fs, path?.mapM (inputText fs)) := by
  cases path? with
  | none => rfl
  | some path =>
    show _ = (fs, some <$> inputText fs path)
    rw [readInputIfAny, map_eq_pure_bind, after_bind, after_readInput]
    cases inputText fs path <;> rfl

/-- Generating reads files and changes none. -/
theorem after_generateThrough (fs : FileSystem) (schemaPath : String)
    (overridesPath : Option String) (config : Config) :
    fs.after (generateThrough FileSystem.operations schemaPath overridesPath config).run =
      (fs, do
        let schemaText ← inputText fs schemaPath
        let overridesText ← overridesPath.mapM (inputText fs)
        generateFromTexts schemaText overridesText config) := by
  rw [generateThrough, after_bind, after_readInput]
  cases inputText fs schemaPath with
  | error e => rfl
  | ok schemaText =>
    simp only [after_bind, after_readInputIfAny]
    cases overridesPath.mapM (inputText fs) <;> rfl

theorem generateFromFiles_eq (fs : FileSystem) (schemaPath : String)
    (overridesPath : Option String) (config : Config) :
    generateFromFiles fs schemaPath overridesPath config = (do
      let schemaText ← inputText fs schemaPath
      let overridesText ← overridesPath.mapM (inputText fs)
      generateFromTexts schemaText overridesText config) := by
  rw [generateFromFiles, after_generateThrough]

/-- Writes both texts among the files that are there. -/
def Output.writeTo (output : Output) (fs : FileSystem) (directory stem : String) :
    FileSystem × Except GenerateError OutputPaths :=
  fs.after (output.writeThrough FileSystem.operations directory stem).run

theorem after_makeOutputDirectory (fs : FileSystem) (directory : String) :
    fs.after (makeOutputDirectory FileSystem.operations directory).run =
      match fs.makeDirectories ⟨directory⟩ with
      | (fs', some fault) => (fs', .error (.output directory fault))
      | (fs', none) => (fs', .ok ()) := by
  rw [makeOutputDirectory, ExceptT.run_mk, FileSystem.after_bind, ← FileSystem.makeDirectories]
  rcases fs.makeDirectories ⟨directory⟩ with ⟨fs', _ | fault⟩ <;> rfl

theorem after_writeFile (fs : FileSystem) (path text : String) :
    fs.after (writeFile FileSystem.operations path text).run =
      match fs.writeText ⟨path⟩ text with
      | .ok fs' => (fs', .ok ())
      | .error fault => (fs, .error (.output path fault)) := by
  rw [writeFile, ExceptT.run_mk, FileSystem.after_bind, FileSystem.after_writeText]
  cases fs.writeText ⟨path⟩ text <;> rfl

theorem Output.writeTo_eq (output : Output) (fs : FileSystem) (directory stem : String) :
    output.writeTo fs directory stem =
      match fs.makeDirectories ⟨directory⟩ with
      | (made, some fault) => (made, .error (.output directory fault))
      | (made, none) =>
        let paths := OutputPaths.ofStem directory stem
        match made.writeText ⟨paths.idl⟩ output.idl.text with
        | .error fault => (made, .error (.output paths.idl fault))
        | .ok half =>
          match half.writeText ⟨paths.native⟩ output.native.text with
          | .error fault => (half, .error (.output paths.native fault))
          | .ok whole => (whole, .ok paths) := by
  rw [writeTo, writeThrough, after_bind, after_makeOutputDirectory]
  rcases fs.makeDirectories ⟨directory⟩ with ⟨made, _ | fault⟩
  · simp only [after_bind, after_writeFile]
    cases made.writeText ⟨(OutputPaths.ofStem directory stem).idl⟩ output.idl.text with
    | error fault => rfl
    | ok half =>
      dsimp only
      cases half.writeText ⟨(OutputPaths.ofStem directory stem).native⟩ output.native.text <;> rfl
  · rfl

end TypeProjection.Projection
