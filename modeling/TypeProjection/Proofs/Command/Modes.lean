/-
  Proofs/Command/Modes.lean --- showing the texts and writing them.

  What is generated does not depend on where the texts go.  So command lines that
  differ in nothing but the flag and the directory generate the same, and fail
  with the same report if they cannot; what one of them shows is what another one
  writes into its two files (`modes_agree`).
-/
import TypeProjection.Proofs.Command.Arguments
import TypeProjection.Proofs.Command.Effects

set_option autoImplicit false

namespace TypeProjection.Command

open Projection (Output OutputPaths generateFromFiles)
open Storage (FileSystem)

variable {options options' : Options} {settings : List Setting} {directory : Option String}
  {dryRun : Bool} {fs : FileSystem}

/-! ## Other destinations -/

/-- Whether a setting says anything but where the texts go. -/
def Setting.isElsewhere : Setting → Bool
  | .value option _ => option != .outDir
  | .dryRun => false

/-- The settings, with others for where the texts go. -/
def redirected (settings : List Setting) (directory : Option String) (dryRun : Bool) :
    List Setting :=
  (directory.map (Setting.value .outDir)).toList ++
    ((if dryRun then [.dryRun] else []) ++ settings.filter Setting.isElsewhere)

theorem mem_redirected {setting : Setting} :
    setting ∈ redirected settings directory dryRun ↔
      (∃ text, directory = some text ∧ setting = .value .outDir text) ∨
        (dryRun = true ∧ setting = .dryRun) ∨
          (setting ∈ settings ∧ setting.isElsewhere = true) := by
  rw [redirected, List.mem_append, List.mem_append, List.mem_filter]
  refine or_congr ?_ (or_congr ?_ Iff.rfl)
  · cases directory <;> simp
  · cases dryRun <;> simp

theorem subject_of_isElsewhere {setting : Setting} (h : setting.isElsewhere = true) :
    setting.subject ≠ none ∧ setting.subject ≠ some .outDir := by
  cases setting with
  | dryRun => cases h
  | value option text => exact ⟨nofun, by simpa [Setting.subject, Setting.isElsewhere] using h⟩

/-- Settings that can be given together still can when the texts go elsewhere. -/
theorem givable_redirected (h : Givable settings) (hdirectory : directory ≠ some "") :
    Givable (redirected settings directory dryRun) where
  distinct := by
    have hdistinct : ((settings.filter Setting.isElsewhere).map Setting.subject).Nodup :=
      h.distinct.sublist (List.filter_sublist.map _)
    have hsubject : ∀ subject ∈ (settings.filter Setting.isElsewhere).map Setting.subject,
        subject ≠ none ∧ subject ≠ some .outDir := by
      rintro _ hmem
      obtain ⟨setting, hsetting, rfl⟩ := List.mem_map.1 hmem
      exact subject_of_isElsewhere (List.mem_filter.1 hsetting).2
    have hnone : none ∉ (settings.filter Setting.isElsewhere).map Setting.subject :=
      fun hmem => (hsubject _ hmem).1 rfl
    have houtDir : some .outDir ∉ (settings.filter Setting.isElsewhere).map Setting.subject :=
      fun hmem => (hsubject _ hmem).2 rfl
    cases directory <;> cases dryRun <;>
      simp [redirected, Setting.subject, -List.mem_map, -List.mem_filter, hdistinct, hnone, houtDir]
  usable := by
    intro setting hsetting
    rcases mem_redirected.1 hsetting with ⟨text, rfl, rfl⟩ | ⟨-, rfl⟩ | ⟨hmem, -⟩
    · exact fun _ hempty => hdirectory (congrArg some hempty)
    · trivial
    · exact h.usable setting hmem

theorem valueIn_redirected_of_ne (h : Givable settings) (hdirectory : directory ≠ some "")
    {option : ValueOption} (hoption : option ≠ .outDir) :
    valueIn option (redirected settings directory dryRun) = valueIn option settings := by
  refine Option.ext fun text => ?_
  rw [valueIn_eq_some_iff (givable_redirected h hdirectory).distinct,
    valueIn_eq_some_iff h.distinct, mem_redirected]
  simp [Setting.isElsewhere, hoption]

theorem valueIn_redirected_outDir (h : Givable settings) (hdirectory : directory ≠ some "") :
    valueIn .outDir (redirected settings directory dryRun) = directory := by
  refine Option.ext fun text => ?_
  rw [valueIn_eq_some_iff (givable_redirected h hdirectory).distinct, mem_redirected]
  simp [Setting.isElsewhere]

/-- Something is asked for if a schema and somewhere for the texts to go are given. -/
theorem exists_asks {schema : String} (hschema : valueIn .schema settings = some schema)
    (hplaced : dryRun = true ∨ (valueIn .outDir settings).isSome = true) :
    ∃ options, Asks (valueIn · settings) dryRun options :=
  ⟨⟨schema, valueIn .overrides settings, _, _, _⟩, hschema, rfl, hplaced, rfl, rfl, rfl⟩

/-- A run can be sent anywhere else. -/
theorem exists_redirected {arguments : List String} (hsaid : Says settings arguments)
    (h : Request.ofArguments arguments = .run options) (hdirectory : directory ≠ some "")
    (hplaced : dryRun = true ∨ directory.isSome = true) :
    ∃ arguments' settings' options', Says settings' arguments' ∧
      (∀ option, option ≠ .outDir → valueIn option settings' = valueIn option settings) ∧
      valueIn .outDir settings' = directory ∧ ("--dry-run" ∈ arguments' ↔ dryRun = true) ∧
      Request.ofArguments arguments' = .run options' := by
  obtain ⟨hgivable, hasks⟩ := (ofArguments_eq_run_iff hsaid).1 h
  have hother : ∀ option, option ≠ .outDir →
      valueIn option (redirected settings directory dryRun) = valueIn option settings :=
    fun _ => valueIn_redirected_of_ne hgivable hdirectory
  have hdir : valueIn .outDir (redirected settings directory dryRun) = directory :=
    valueIn_redirected_outDir hgivable hdirectory
  obtain ⟨arguments', hsaid'⟩ := exists_said (redirected settings directory dryRun)
  have hdry : (redirected settings directory dryRun).contains .dryRun = dryRun := by
    rw [Bool.eq_iff_iff, List.contains_iff_mem, mem_redirected]
    simp [Setting.isElsewhere]
  have hschema : valueIn .schema (redirected settings directory dryRun) = some options.schema :=
    (hother .schema nofun).trans hasks.schema
  rw [← hdir] at hplaced
  obtain ⟨options', hasks'⟩ := exists_asks hschema hplaced
  refine ⟨arguments', _, options', hsaid', hother, hdir, ?_, ?_⟩
  · rw [← hsaid'.dryRun_mem_iff, ← List.contains_iff_mem, hdry]
  · rw [ofArguments_eq_run_iff hsaid', hdry]
    exact ⟨givable_redirected hgivable hdirectory, hasks'⟩

/-- Nothing but the destination depends on where the texts go. -/
theorem Asks.eq_redirected {given given' : ValueOption → Option String} {dryRun' : Bool}
    (h : Asks given dryRun options) (h' : Asks given' dryRun' options')
    (hgiven : ∀ option, option ≠ .outDir → given' option = given option) :
    options' = { options with destination := options'.destination } := by
  obtain ⟨schema, overrides, destination, stem, config⟩ := options
  obtain ⟨schema', overrides', destination', stem', config'⟩ := options'
  have hschema : schema' = schema :=
    Option.some.inj (h'.schema.symm.trans ((hgiven .schema nofun).trans h.schema))
  have hoverrides : overrides' = overrides :=
    h'.overrides.symm.trans ((hgiven .overrides nofun).trans h.overrides)
  have hstem : stem' = stem := by
    rw [show stem' = _ from h'.stem, show stem = _ from h.stem, hgiven .stem nofun]
  have hconfig : config' = config := by
    rw [show config' = _ from h'.config, show config = _ from h.config, hgiven .lead nofun,
      hgiven .subnamespace nofun]
  rw [hschema, hoverrides, hstem, hconfig]

/-! ## What is shown and what is written -/

section Shown

variable (hshown : options.destination = none)

include hshown

theorem Options.exitCode_run_of_shown (fs : FileSystem) :
    (options.run fs).exitCode = 0 ↔
      ∃ output, generateFromFiles fs options.schema options.overrides options.config =
        .ok output := by
  cases h : generateFromFiles fs options.schema options.overrides options.config with
  | error e =>
    rw [run_of_error h]
    simp [Answer.failure]
  | ok output =>
    rw [run_of_shown h hshown]
    simp [Answer.success]

/-- If a run that shows the texts fails, so does any other one, with the same report. -/
theorem Options.run_of_shown_failed (hfails : (options.run fs).exitCode ≠ 0)
    (destination : Option String) :
    { options with destination := destination }.run fs = options.run fs := by
  cases h : generateFromFiles fs options.schema options.overrides options.config with
  | error e => simp only [run_eq, h]
  | ok output => exact absurd ((exitCode_run_of_shown hshown fs).2 ⟨output, h⟩) hfails

end Shown

section Written

variable {place : String} (hwritten : options.destination = some place)

include hwritten

theorem Options.stdout_run_of_written (fs : FileSystem) : (options.run fs).stdout = "" := by
  cases h : generateFromFiles fs options.schema options.overrides options.config with
  | error e => rw [run_of_error h]; rfl
  | ok output =>
    cases hwrite : output.writeTo fs place options.stem with
    | mk fs' result =>
      cases result with
      | error e => rw [run_of_writeTo_error h hwritten hwrite]; rfl
      | ok paths => rw [run_of_writeTo_ok h hwritten hwrite]; rfl

/-- A run that succeeds in writing the texts leaves them in their files. -/
theorem Options.readText_run_of_written {output : Output}
    (h : generateFromFiles fs options.schema options.overrides options.config = .ok output)
    (hsucceeds : (options.run fs).exitCode = 0) :
    (options.run fs).files.readText ⟨(OutputPaths.ofStem place options.stem).idl⟩ =
        .ok output.idl.text ∧
      (options.run fs).files.readText ⟨(OutputPaths.ofStem place options.stem).native⟩ =
        .ok output.native.text := by
  rcases output.failsAt_or_succeeds fs place options.stem with
    ⟨step, fault, fs', hfails⟩ | ⟨fs', hall⟩
  · rw [run_of_writeTo_error h hwritten hfails.writeTo_eq] at hsucceeds
    exact absurd hsucceeds (by simp [Answer.failure])
  · rw [run_of_writeTo_ok h hwritten hall.writeTo_eq]
    rw [OutputPaths.ofStem_eq]
    exact hall.readText_eq

end Written

/-- A run that shows the texts succeeds exactly if they can be generated, changes nothing, and
shows the interface definitions and the native wrappers behind them.  Any run can be sent
anywhere else.  Where the texts go is of no account for a run that shows them; and a run that
writes them prints nothing, fails with the same report if the run that shows them fails, and
otherwise, if it succeeds, leaves two files that hold what the run that shows them prints. -/
theorem modes_agree (fs : FileSystem) {arguments : List String} {options : Options}
    (h : Request.ofArguments arguments = .run options) (hdry : "--dry-run" ∈ arguments) :
    (((run arguments fs).exitCode = 0 ↔
        ∃ output, generateFromFiles fs options.schema options.overrides options.config =
          .ok output) ∧
      (run arguments fs).files = fs ∧
      ∀ output, generateFromFiles fs options.schema options.overrides options.config =
          .ok output →
        (run arguments fs).stdout = output.idl.text ++ output.native.text) ∧
    (∃ settings, Says settings arguments) ∧
    ∀ settings, Says settings arguments → Asks (valueIn · settings) true options ∧
      (∀ directory dryRun, directory ≠ some "" → dryRun = true ∨ directory.isSome = true →
        ∃ arguments' settings' options', Says settings' arguments' ∧
          (∀ option, option ≠ .outDir → valueIn option settings' = valueIn option settings) ∧
          valueIn .outDir settings' = directory ∧ ("--dry-run" ∈ arguments' ↔ dryRun = true) ∧
          Request.ofArguments arguments' = .run options') ∧
      ∀ arguments' settings' options', Says settings' arguments' →
        (∀ option, option ≠ .outDir → valueIn option settings' = valueIn option settings) →
        Request.ofArguments arguments' = .run options' →
        ("--dry-run" ∈ arguments' → run arguments' fs = run arguments fs) ∧
        ("--dry-run" ∉ arguments' → ∃ directory, valueIn .outDir settings' = some directory ∧
          (run arguments' fs).stdout = "" ∧
          ((run arguments fs).exitCode ≠ 0 → (run arguments' fs).exitCode ≠ 0 ∧
            (run arguments' fs).loggedError = (run arguments fs).loggedError) ∧
          ((run arguments fs).exitCode = 0 → (run arguments' fs).exitCode = 0 →
            ∃ interfaces wrappers,
              (run arguments' fs).files.readText
                ⟨(OutputPaths.ofStem directory options.stem).idl⟩ = .ok interfaces ∧
              (run arguments' fs).files.readText
                ⟨(OutputPaths.ofStem directory options.stem).native⟩ = .ok wrappers ∧
              (run arguments fs).stdout = interfaces ++ wrappers)) := by
  have hasks : ∀ settings, Says settings arguments → Asks (valueIn · settings) true options := by
    intro settings hsaid
    have hcontains : settings.contains .dryRun = true :=
      List.contains_iff_mem.2 (hsaid.dryRun_mem_iff.2 hdry)
    rw [← hcontains]
    exact ((ofArguments_eq_run_iff hsaid).1 h).2
  obtain ⟨spoken, hspoken⟩ := exists_said_of_readArguments h
  have hshown : options.destination = none := (hasks spoken hspoken).destination
  have hprints : ∀ output, generateFromFiles fs options.schema options.overrides options.config =
      .ok output → (options.run fs).stdout = output.idl.text ++ output.native.text := by
    intro output hgenerated
    rw [Options.run_of_shown hgenerated hshown]
    rfl
  simp only [run_eq h]
  refine ⟨⟨Options.exitCode_run_of_shown hshown fs, Options.files_run_of_shown hshown fs, hprints⟩,
    ⟨spoken, hspoken⟩, fun settings hsaid => ⟨hasks settings hsaid,
      fun directory dryRun => exists_redirected hsaid h, ?_⟩⟩
  intro arguments' settings' options' hsaid' hgiven h'
  have hasks' := ((ofArguments_eq_run_iff hsaid').1 h').2
  have hsame := (hasks settings hsaid).eq_redirected hasks' hgiven
  rw [run_eq h']
  constructor
  · intro hdry'
    rw [List.contains_iff_mem.2 (hsaid'.dryRun_mem_iff.2 hdry')] at hasks'
    have hshown' : options'.destination = none := hasks'.destination
    rw [hsame, hshown', ← hshown]
  · intro hdry'
    have hwrite : settings'.contains .dryRun = false := by
      rw [Bool.eq_false_iff, Ne, List.contains_iff_mem, hsaid'.dryRun_mem_iff]
      exact hdry'
    rw [hwrite] at hasks'
    obtain ⟨directory, hdirectory⟩ := Option.isSome_iff_exists.1
      (hasks'.placed.resolve_left Bool.false_ne_true)
    have hwritten : options'.destination = some directory := hasks'.destination.trans hdirectory
    rw [hwritten] at hsame
    refine ⟨directory, hdirectory, Options.stdout_run_of_written hwritten fs, ?_, ?_⟩
    · intro hfails
      rw [hsame, Options.run_of_shown_failed hshown hfails]
      exact ⟨hfails, rfl⟩
    · intro hsucceeds hsucceeds'
      obtain ⟨output, hgenerated⟩ := (Options.exitCode_run_of_shown hshown fs).1 hsucceeds
      rw [hsame] at hwritten hsucceeds' ⊢
      obtain ⟨hidl, hnative⟩ := Options.readText_run_of_written hwritten hgenerated hsucceeds'
      exact ⟨_, _, hidl, hnative, hprints output hgenerated⟩

/-- The texts of a shape are shown, or written into the files that are asked for. -/
theorem modes_agree_shape :
    Request.ofArguments ["--schema", "shape.xml", "--overrides=chosen.xml", "--dry-run"] =
        .run ⟨"shape.xml", some "chosen.xml", none, "Structs", default⟩ ∧
      (run ["--schema", "shape.xml", "--overrides=chosen.xml", "--dry-run"] shapeFiles).exitCode =
        0 ∧
      (run ["--out-dir=out", "--schema=shape.xml", "--overrides", "chosen.xml"]
        shapeFiles).exitCode = 0 ∧
      ∃ interfaces wrappers,
        (run ["--out-dir=out", "--schema=shape.xml", "--overrides", "chosen.xml"]
          shapeFiles).files.readText ⟨"out/Structs.idl"⟩ = .ok interfaces ∧
        (run ["--out-dir=out", "--schema=shape.xml", "--overrides", "chosen.xml"]
          shapeFiles).files.readText ⟨"out/Structs.h"⟩ = .ok wrappers ∧
        (run ["--schema", "shape.xml", "--overrides=chosen.xml", "--dry-run"] shapeFiles).stdout =
          interfaces ++ wrappers := by
  have hsaid : Says [.value .schema "shape.xml", .value .overrides "chosen.xml", .dryRun]
      ["--schema", "shape.xml", "--overrides=chosen.xml", "--dry-run"] := by
    rw [show "--overrides=chosen.xml" = ValueOption.overrides.flag ++ "=" ++ "chosen.xml" by decide]
    exact .cons (.apart (by decide)) (.cons (.assigned _ _) (.cons .dryRun .nil))
  have hsaid' : Says [.value .outDir "out", .value .schema "shape.xml",
      .value .overrides "chosen.xml"]
      ["--out-dir=out", "--schema=shape.xml", "--overrides", "chosen.xml"] := by
    rw [show "--out-dir=out" = ValueOption.outDir.flag ++ "=" ++ "out" by decide,
      show "--schema=shape.xml" = ValueOption.schema.flag ++ "=" ++ "shape.xml" by decide]
    exact .cons (.assigned _ _) (.cons (.assigned _ _) (.cons (.apart (by decide)) .nil))
  have hdry : Request.ofArguments
      ["--schema", "shape.xml", "--overrides=chosen.xml", "--dry-run"] =
        .run ⟨"shape.xml", some "chosen.xml", none, "Structs", default⟩ :=
    (ofArguments_eq_run_iff hsaid).2 ⟨⟨by decide, by simp [Setting.Usable]⟩,
      ⟨rfl, rfl, .inl rfl, rfl, rfl, rfl⟩⟩
  have hwritten : Request.ofArguments
      ["--out-dir=out", "--schema=shape.xml", "--overrides", "chosen.xml"] =
        .run ⟨"shape.xml", some "chosen.xml", some "out", "Structs", default⟩ :=
    (ofArguments_eq_run_iff hsaid').2 ⟨⟨by decide, by simp [Setting.Usable]⟩,
      ⟨rfl, rfl, .inr rfl, rfl, rfl, rfl⟩⟩
  obtain ⟨output, houtput⟩ := Projection.exists_generateFromTexts_shape
  have hgenerated : generateFromFiles shapeFiles "shape.xml" (some "chosen.xml") default =
      .ok output := (generateFromFiles_twoFiles _ _ _).trans houtput
  have hexit : (run ["--out-dir=out", "--schema=shape.xml", "--overrides", "chosen.xml"]
      shapeFiles).exitCode = 0 := by
    obtain ⟨fs', hwrite, -⟩ := exists_writeTo_twoFiles output
      Projection.shapeSchema.document (Projection.spaceOverrides ["SHAPE"]).document
    have hrun : Options.run ⟨"shape.xml", some "chosen.xml", some "out", "Structs", default⟩
      shapeFiles = ⟨.success "", fs'⟩ := Options.run_of_writeTo_ok hgenerated rfl hwrite
    rw [run_eq hwritten, hrun]
    rfl
  obtain ⟨⟨hsuccess, -, -⟩, -, hmodes⟩ := modes_agree shapeFiles hdry (by decide)
  have hexitDry := hsuccess.2 ⟨output, hgenerated⟩
  have hgiven : ∀ option, option ≠ .outDir →
      valueIn option [.value .outDir "out", .value .schema "shape.xml",
        .value .overrides "chosen.xml"] =
      valueIn option [.value .schema "shape.xml", .value .overrides "chosen.xml", .dryRun] := by
    intro option hoption
    cases option <;> first | rfl | exact absurd rfl hoption
  obtain ⟨-, hwrites⟩ := (hmodes _ hsaid).2.2 _ _ _ hsaid' hgiven hwritten
  obtain ⟨directory, hdirectory, -, -, hread⟩ := hwrites (by decide)
  cases hdirectory
  exact ⟨hdry, hexitDry, hexit, hread hexitDry hexit⟩

end TypeProjection.Command
