/-
  Proofs/Command/Effects.lean --- what a run leaves behind.

  Everything is read and generated before anything is written.  So a run that
  cannot generate leaves all as it was, and what any other run changes is what
  writing both texts changes (`effects_verdict`).
-/
import TypeProjection.Command.Run
import TypeProjection.Proofs.Projection.Stages
import TypeProjection.Proofs.Projection.WrittenFiles

set_option autoImplicit false

namespace TypeProjection.Command

open Projection (GenerateError Output OutputPaths filePath generateFromFiles generateThrough
  inputText)
open Storage (FileSystem)

variable {arguments : List String} {options : Options} {fs : FileSystem} {output : Output}

theorem run_eq (h : Request.ofArguments arguments = .run options) (fs : FileSystem) :
    run arguments fs = options.run fs := by
  rw [run, runThrough, h]
  rfl

/-- A run that cannot generate reports why, and nothing else can be seen of it. -/
theorem Options.run_of_error {e : GenerateError}
    (h : generateFromFiles fs options.schema options.overrides options.config = .error e) :
    options.run fs = ⟨.failure (generateContext options.schema) e, fs⟩ := by
  rw [Options.run_eq, h]

/-- A run without a destination shows both texts. -/
theorem Options.run_of_shown
    (h : generateFromFiles fs options.schema options.overrides options.config = .ok output)
    (hdestination : options.destination = none) :
    options.run fs = ⟨.success (shownText output), fs⟩ := by
  simp only [Options.run_eq, h, hdestination]

/-- A run without a destination leaves everything as it was. -/
theorem Options.files_run_of_shown (hdestination : options.destination = none)
    (fs : FileSystem) : (options.run fs).files = fs := by
  cases h : generateFromFiles fs options.schema options.overrides options.config with
  | error e => rw [run_of_error h]
  | ok output => rw [run_of_shown h hdestination]

section Written

variable {directory : String} {fs' : FileSystem}
  (h : generateFromFiles fs options.schema options.overrides options.config = .ok output)
  (hdestination : options.destination = some directory)

include h hdestination

/-- A run with a destination that cannot write reports why. -/
theorem Options.run_of_writeTo_error {e : GenerateError}
    (hwrite : output.writeTo fs directory options.stem = (fs', .error e)) :
    options.run fs = ⟨.failure writeContext e, fs'⟩ := by
  simp only [Options.run_eq, h, hdestination, hwrite]

/-- A run with a destination that can write shows nothing. -/
theorem Options.run_of_writeTo_ok {paths : OutputPaths}
    (hwrite : output.writeTo fs directory options.stem = (fs', .ok paths)) :
    options.run fs = ⟨.success "", fs'⟩ := by
  simp only [Options.run_eq, h, hdestination, hwrite]

end Written

/-- Generating leaves everything as it was, and so does a run that cannot generate from its
files or only shows the texts.  A run that can generate and has a destination leaves what
writing both texts leaves: away from the two files nothing is different but that directories
may have been added; if all goes well, the two files hold the two texts; otherwise the failure
is that of the first operation that fails and names its path, and unless that is the second
file, no file is touched at all. -/
theorem effects_verdict (options : Options) (fs : FileSystem) :
    (fs.after (generateThrough FileSystem.operations options.schema options.overrides
      options.config).run).1 = fs ∧
    (∀ e, generateFromFiles fs options.schema options.overrides options.config = .error e →
      (options.run fs).files = fs ∧
        ∀ arguments, Request.ofArguments arguments = .run options →
          (run arguments fs).files = fs) ∧
    (options.destination = none → (options.run fs).files = fs) ∧
    ∀ (output : Output) (directory : String),
      (generateFromFiles fs options.schema options.overrides options.config = .ok output →
        options.destination = some directory →
          (options.run fs).files = (output.writeTo fs directory options.stem).1) ∧
      (∀ fs' result, output.writeTo fs directory options.stem = (fs', result) →
        ∀ place, ¬ Projection.IsOutputPlace fs' directory options.stem place →
          fs'.node? place = fs.node? place ∨
            (fs.node? place = none ∧ fs'.node? place = some .directory)) ∧
      (∀ fs' paths, output.writeTo fs directory options.stem = (fs', .ok paths) →
        paths = ⟨filePath directory options.stem ".idl", filePath directory options.stem ".h"⟩ ∧
          fs'.readText ⟨filePath directory options.stem ".idl"⟩ = .ok output.idl.text ∧
          fs'.readText ⟨filePath directory options.stem ".h"⟩ = .ok output.native.text) ∧
      (∀ fs' e, output.writeTo fs directory options.stem = (fs', .error e) ↔
        ∃ step fault, output.FailsAt fs directory options.stem step fault fs' ∧
          e = .output (step.path directory options.stem) fault ∧
          e.message =
            "failed to write '" ++ step.path directory options.stem ++ "': " ++ fault.message) ∧
      ∀ fs' step fault, output.FailsAt fs directory options.stem step fault fs' →
        step ≠ .native → fs.AddsDirectories fs' := by
  refine ⟨?_, ?_, ?_, fun output directory => ⟨?_, ?_, ?_, ?_, ?_⟩⟩
  · rw [Projection.after_generateThrough]
  · intro e h
    have hrun := Options.run_of_error h
    refine ⟨by rw [hrun], fun arguments harguments => ?_⟩
    rw [run_eq harguments, hrun]
  · exact fun hdestination => Options.files_run_of_shown hdestination fs
  · intro h hdestination
    cases hwrite : output.writeTo fs directory options.stem with
    | mk fs' result =>
      cases result with
      | error e => rw [Options.run_of_writeTo_error h hdestination hwrite]
      | ok paths => rw [Options.run_of_writeTo_ok h hdestination hwrite]
  · intro fs' result hwrite place hplace
    have hnode := output.node?_writeTo fs directory options.stem (by rw [hwrite]; exact hplace)
    rw [hwrite] at hnode
    exact hnode
  · intro fs' paths hwrite
    obtain ⟨hsucceeds, rfl⟩ := Output.writeTo_eq_ok_iff.1 hwrite
    exact ⟨rfl, hsucceeds.readText_eq⟩
  · intro fs' e
    rw [Output.writeTo_eq_error_iff]
    constructor
    · rintro ⟨step, fault, hfails, rfl⟩
      exact ⟨step, fault, hfails, rfl, rfl⟩
    · rintro ⟨step, fault, hfails, he, -⟩
      exact ⟨step, fault, hfails, he⟩
  · intro fs' step fault hfails hstep
    exact hfails.addsDirectories hstep

/-- Two files, one with a schema and one with overrides. -/
def twoFiles (schemaText overridesText : String) : FileSystem where
  nodes := [(["shape.xml"], .file (.text schemaText)),
    (["chosen.xml"], .file (.text overridesText))]
  workingDirectory := []

theorem generateFromFiles_twoFiles (schemaText overridesText : String)
    (config : Projection.Config) :
    generateFromFiles (twoFiles schemaText overridesText) "shape.xml" (some "chosen.xml") config =
      Projection.generateFromTexts schemaText (some overridesText) config := by
  have hschema : inputText (twoFiles schemaText overridesText) "shape.xml" = .ok schemaText := rfl
  have hoverrides : (some "chosen.xml").mapM (inputText (twoFiles schemaText overridesText)) =
      .ok (some overridesText) := rfl
  rw [Projection.generateFromFiles_eq, hschema, hoverrides]
  rfl

theorem exists_writeTo_twoFiles (output : Output) (schemaText overridesText : String) :
    ∃ fs', output.writeTo (twoFiles schemaText overridesText) "out" "Structs" =
        (fs', .ok ⟨"out/Structs.idl", "out/Structs.h"⟩) ∧
      fs'.node? ["out", "Structs.idl"] = some (.file (.text output.idl.text)) ∧
      fs'.node? ["out", "Structs.h"] = some (.file (.text output.native.text)) := by
  have hmade : (twoFiles schemaText overridesText).makeDirectories ⟨"out"⟩ =
      ((twoFiles schemaText overridesText).put ["out"] .directory, none) := rfl
  generalize hfs : (twoFiles schemaText overridesText).put ["out"] .directory = made at hmade
  have hidl : made.writeText ⟨"out/Structs.idl"⟩ output.idl.text =
      .ok (made.put ["out", "Structs.idl"] (.file (.text output.idl.text))) := by
    subst hfs
    rfl
  have hnative : (made.put ["out", "Structs.idl"] (.file (.text output.idl.text))).writeText
      ⟨"out/Structs.h"⟩ output.native.text =
      .ok ((made.put ["out", "Structs.idl"] (.file (.text output.idl.text))).put
        ["out", "Structs.h"] (.file (.text output.native.text))) := by
    subst hfs
    rfl
  have hsucceeds : output.Succeeds (twoFiles schemaText overridesText) "out" "Structs" _ :=
    .intro hmade hidl hnative
  exact ⟨_, hsucceeds.writeTo_eq, by simp [FileSystem.node?_put], by simp [FileSystem.node?_put]⟩

/-- The file of a shape with a brush, and that of the overrides that ask for it. -/
def shapeFiles : FileSystem :=
  twoFiles Projection.shapeSchema.document (Projection.spaceOverrides ["SHAPE"]).document

/-- The texts of a shape are written into two files of a directory that was not there, and a
file that they come from stays as it was; a file cannot serve as the directory. -/
theorem effects_verdict_shape :
    ∃ output fs',
      generateFromFiles shapeFiles "shape.xml" (some "chosen.xml") default = .ok output ∧
      output.writeTo shapeFiles "out" "Structs" =
        (fs', .ok ⟨"out/Structs.idl", "out/Structs.h"⟩) ∧
      (Options.run ⟨"shape.xml", some "chosen.xml", some "out", "Structs", default⟩
        shapeFiles).files = fs' ∧
      fs'.node? ["out", "Structs.idl"] = some (.file (.text output.idl.text)) ∧
      fs'.node? ["out", "Structs.h"] = some (.file (.text output.native.text)) ∧
      fs'.readText ⟨"out/Structs.idl"⟩ = .ok output.idl.text ∧
      fs'.readText ⟨"out/Structs.h"⟩ = .ok output.native.text ∧
      fs'.node? ["shape.xml"] = shapeFiles.node? ["shape.xml"] ∧
      ∃ e, output.writeTo shapeFiles "shape.xml" "Structs" = (shapeFiles, .error e) ∧
        e.message = "failed to write 'shape.xml': File exists (os error 17)" := by
  obtain ⟨output, houtput⟩ := Projection.exists_generateFromTexts_shape
  have hgenerated : generateFromFiles shapeFiles "shape.xml" (some "chosen.xml") default =
      .ok output := (generateFromFiles_twoFiles _ _ _).trans houtput
  obtain ⟨fs', hwrite, hidl, hnative⟩ := exists_writeTo_twoFiles output
    Projection.shapeSchema.document (Projection.spaceOverrides ["SHAPE"]).document
  rw [← shapeFiles] at hwrite
  obtain ⟨-, -, -, hverdict⟩ := effects_verdict
    ⟨"shape.xml", some "chosen.xml", some "out", "Structs", default⟩ shapeFiles
  obtain ⟨hfiles, hframe, hholds, -⟩ := hverdict output "out"
  obtain ⟨-, -, -, hrefused, -⟩ := hverdict output "shape.xml"
  obtain ⟨-, hreadIdl, hreadNative⟩ := hholds fs' _ hwrite
  have hsame : fs'.node? ["shape.xml"] = shapeFiles.node? ["shape.xml"] := by
    have hplace : ¬ Projection.IsOutputPlace fs' "out" "Structs" ["shape.xml"] := by
      rintro (hleads | hleads) <;> exact absurd hleads.getLast?_eq (by decide)
    rcases hframe fs' _ hwrite _ hplace with hsame | ⟨hnone, -⟩
    · exact hsame
    · exact absurd hnone (Option.some_ne_none _)
  have hthere : shapeFiles.makeDirectories ⟨"shape.xml"⟩ = (shapeFiles, some .alreadyThere) := rfl
  have hfails : output.FailsAt shapeFiles "shape.xml" "Structs" .directory .alreadyThere
    shapeFiles := .directory hthere
  exact ⟨output, fs', hgenerated, hwrite, (hfiles hgenerated rfl).trans (congrArg Prod.fst hwrite),
    hidl, hnative, hreadIdl, hreadNative, hsame, .output "shape.xml" .alreadyThere,
    (hrefused shapeFiles _).2 ⟨.directory, .alreadyThere, hfails, rfl, rfl⟩, rfl⟩

end TypeProjection.Command
