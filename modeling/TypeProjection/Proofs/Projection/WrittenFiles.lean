/-
  Proofs/Projection/WrittenFiles.lean --- what is there after both texts were written.

  Writing both texts into a directory goes through three operations: the
  directory is made, then each of the two files is written.  Whatever was there
  before and whichever of them fails, nothing but directories is added apart
  from the two files, and a failure names the path of the operation that failed
  (`Output.node?_writeTo`).
-/
import TypeProjection.Projection.Files
import TypeProjection.Proofs.Storage.Changes
import TypeProjection.Proofs.Storage.Names

set_option autoImplicit false

namespace TypeProjection.Projection

open Storage (Fault FileSystem IsEnding Path joinText)

variable {output : Output} {fs fs' : FileSystem} {directory stem : String}

/-! ## The two files -/

theorem isEnding_idl : IsEnding ".idl" :=
  ⟨by decide, by decide⟩

theorem isEnding_native : IsEnding ".h" :=
  ⟨by decide, by decide⟩

/-- The path of a file in a directory, as it is written: the stem and the ending, and in front
of them the directory and a slash.  A stem that leads from the root has nothing in front of it,
and there is no slash to add where no directory is named or its name ends with one. -/
def filePath (directory stem ending : String) : String :=
  if stem.toList.head? = some '/' then stem ++ ending
  else if directory = "" ∨ directory.toList.getLast? = some '/' then directory ++ stem ++ ending
  else directory ++ "/" ++ stem ++ ending

theorem filePath_eq_joinText (directory stem ending : String) :
    filePath directory stem ending = joinText directory stem ++ ending := by
  unfold filePath joinText
  split
  · rfl
  · split <;> rfl

theorem OutputPaths.ofStem_eq (directory stem : String) :
    OutputPaths.ofStem directory stem =
      ⟨filePath directory stem ".idl", filePath directory stem ".h"⟩ := by
  rw [ofStem, Storage.joinText_append isEnding_idl, Storage.joinText_append isEnding_native,
    filePath_eq_joinText, filePath_eq_joinText]

/-- The two files are at different places. -/
theorem place_ne_of_leadsTo {place place' : Storage.Place}
    (hidl : fs.LeadsTo ⟨filePath directory stem ".idl"⟩ place)
    (hnative : fs'.LeadsTo ⟨filePath directory stem ".h"⟩ place') :
    place ≠ place' := by
  rw [filePath_eq_joinText] at hidl hnative
  obtain ⟨front, last, hsteps⟩ := Path.exists_steps_append (joinText directory stem)
  have hplace := hidl.getLast?_eq
  have hplace' := hnative.getLast?_eq
  rw [hsteps _ isEnding_idl, List.getLast?_concat] at hplace
  rw [hsteps _ isEnding_native, List.getLast?_concat] at hplace'
  rintro rfl
  have hsame : last ++ ".idl" = last ++ ".h" := Option.some.inj (hplace.symm.trans hplace')
  rw [← String.toList_inj, String.toList_append, String.toList_append] at hsame
  exact absurd (List.append_cancel_left hsame) (by decide)

/-! ## The three operations -/

/-- The operations that writing both texts consists of. -/
inductive WriteStep where
  /-- the directory is made -/
  | directory
  /-- the interface definitions are written -/
  | idl
  /-- the native wrappers are written -/
  | native
  deriving DecidableEq, Repr

/-- The path that an operation is about. -/
def WriteStep.path (directory stem : String) : WriteStep → String
  | .directory => directory
  | .idl => filePath directory stem ".idl"
  | .native => filePath directory stem ".h"

/-- An operation fails after those in front of it have succeeded, with what is there then. -/
inductive Output.FailsAt (output : Output) (fs : FileSystem) (directory stem : String) :
    WriteStep → Fault → FileSystem → Prop where
  /-- the directory cannot be made -/
  | directory {made : FileSystem} {fault : Fault}
    (hfault : fs.makeDirectories ⟨directory⟩ = (made, some fault)) :
    FailsAt output fs directory stem .directory fault made
  /-- the interface definitions cannot be written -/
  | idl {made : FileSystem} {fault : Fault} (hmade : fs.makeDirectories ⟨directory⟩ = (made, none))
    (hfault : made.writeText ⟨WriteStep.idl.path directory stem⟩ output.idl.text = .error fault) :
    FailsAt output fs directory stem .idl fault made
  /-- the native wrappers cannot be written -/
  | native {made half : FileSystem} {fault : Fault}
    (hmade : fs.makeDirectories ⟨directory⟩ = (made, none))
    (hidl : made.writeText ⟨WriteStep.idl.path directory stem⟩ output.idl.text = .ok half)
    (hfault : half.writeText ⟨WriteStep.native.path directory stem⟩ output.native.text =
      .error fault) :
    FailsAt output fs directory stem .native fault half

/-- All operations succeed, with what is there then. -/
inductive Output.Succeeds (output : Output) (fs : FileSystem) (directory stem : String) :
    FileSystem → Prop where
  /-- one after the other -/
  | intro {made half whole : FileSystem} (hmade : fs.makeDirectories ⟨directory⟩ = (made, none))
    (hidl : made.writeText ⟨WriteStep.idl.path directory stem⟩ output.idl.text = .ok half)
    (hnative : half.writeText ⟨WriteStep.native.path directory stem⟩ output.native.text =
      .ok whole) :
    Succeeds output fs directory stem whole

theorem Output.failsAt_or_succeeds (output : Output) (fs : FileSystem) (directory stem : String) :
    (∃ step fault fs', output.FailsAt fs directory stem step fault fs') ∨
      ∃ fs', output.Succeeds fs directory stem fs' := by
  cases hmade : fs.makeDirectories ⟨directory⟩ with
  | mk made fault? =>
    cases fault? with
    | some fault => exact .inl ⟨_, _, _, .directory hmade⟩
    | none =>
      cases hidl : made.writeText ⟨WriteStep.idl.path directory stem⟩ output.idl.text with
      | error fault => exact .inl ⟨_, _, _, .idl hmade hidl⟩
      | ok half =>
        cases hnative : half.writeText ⟨WriteStep.native.path directory stem⟩
            output.native.text with
        | error fault => exact .inl ⟨_, _, _, .native hmade hidl hnative⟩
        | ok whole => exact .inr ⟨_, .intro hmade hidl hnative⟩

theorem Output.FailsAt.writeTo_eq {step : WriteStep} {fault : Fault}
    (h : output.FailsAt fs directory stem step fault fs') :
    output.writeTo fs directory stem =
      (fs', .error (.output (step.path directory stem) fault)) := by
  cases h with
  | directory hfault => rw [Output.writeTo_eq, hfault]; rfl
  | idl hmade hfault =>
    simp only [WriteStep.path] at hfault
    simp only [Output.writeTo_eq, OutputPaths.ofStem_eq, hmade, hfault, WriteStep.path]
  | native hmade hidl hfault =>
    simp only [WriteStep.path] at hidl hfault
    simp only [Output.writeTo_eq, OutputPaths.ofStem_eq, hmade, hidl, hfault, WriteStep.path]

theorem Output.Succeeds.writeTo_eq (h : output.Succeeds fs directory stem fs') :
    output.writeTo fs directory stem =
      (fs', .ok ⟨filePath directory stem ".idl", filePath directory stem ".h"⟩) := by
  obtain ⟨hmade, hidl, hnative⟩ := h
  simp only [WriteStep.path] at hidl hnative
  simp only [Output.writeTo_eq, OutputPaths.ofStem_eq, hmade, hidl, hnative]

/-- Writing both texts fails with the failure of an operation, about the path of that
operation. -/
theorem Output.writeTo_eq_error_iff {e : GenerateError} :
    output.writeTo fs directory stem = (fs', .error e) ↔
      ∃ step fault, output.FailsAt fs directory stem step fault fs' ∧
        e = .output (step.path directory stem) fault := by
  constructor
  · intro h
    rcases output.failsAt_or_succeeds fs directory stem with
      ⟨step, fault, fs'', hfails⟩ | ⟨fs'', hsucceeds⟩
    · cases hfails.writeTo_eq.symm.trans h
      exact ⟨step, fault, hfails, rfl⟩
    · cases hsucceeds.writeTo_eq.symm.trans h
  · rintro ⟨step, fault, hfails, rfl⟩
    exact hfails.writeTo_eq

theorem Output.writeTo_eq_ok_iff {paths : OutputPaths} :
    output.writeTo fs directory stem = (fs', .ok paths) ↔
      output.Succeeds fs directory stem fs' ∧
        paths = ⟨filePath directory stem ".idl", filePath directory stem ".h"⟩ := by
  constructor
  · intro h
    rcases output.failsAt_or_succeeds fs directory stem with
      ⟨step, fault, fs'', hfails⟩ | ⟨fs'', hsucceeds⟩
    · cases hfails.writeTo_eq.symm.trans h
    · cases hsucceeds.writeTo_eq.symm.trans h
      exact ⟨hsucceeds, rfl⟩
  · rintro ⟨hsucceeds, rfl⟩
    exact hsucceeds.writeTo_eq

/-! ## What is there afterwards -/

/-- Unless the second file is what fails, a failure leaves directories at most. -/
theorem Output.FailsAt.addsDirectories {step : WriteStep} {fault : Fault}
    (h : output.FailsAt fs directory stem step fault fs') (hstep : step ≠ .native) :
    fs.AddsDirectories fs' := by
  have hadds := fs.addsDirectories_makeDirectories ⟨directory⟩
  cases h with
  | directory hfault =>
    rw [hfault] at hadds
    exact hadds
  | idl hmade hfault =>
    rw [hmade] at hadds
    exact hadds
  | native hmade hidl hfault => exact absurd rfl hstep

/-- Both files hold their texts when all operations have succeeded. -/
theorem Output.Succeeds.readText_eq (h : output.Succeeds fs directory stem fs') :
    fs'.readText ⟨filePath directory stem ".idl"⟩ = .ok output.idl.text ∧
      fs'.readText ⟨filePath directory stem ".h"⟩ = .ok output.native.text := by
  obtain ⟨hmade, hidl, hnative⟩ := h
  refine ⟨?_, FileSystem.readText_of_writeText hnative⟩
  refine FileSystem.readText_of_node?_eq (FileSystem.keepsDirectories_of_writeText hnative) ?_
    (FileSystem.readText_of_writeText hidl)
  intro place hplace
  refine FileSystem.node?_of_writeText hnative fun hnative => ?_
  exact place_ne_of_leadsTo hplace hnative rfl

/-- A place is that of one of the two files. -/
def IsOutputPlace (fs : FileSystem) (directory stem : String) (place : Storage.Place) : Prop :=
  fs.LeadsTo ⟨filePath directory stem ".idl"⟩ place ∨
    fs.LeadsTo ⟨filePath directory stem ".h"⟩ place

/-- Away from the two files, what is there afterwards was there before, or is a directory
where nothing was. -/
theorem Output.node?_writeTo (output : Output) (fs : FileSystem) (directory stem : String)
    {place : Storage.Place}
    (hplace : ¬ IsOutputPlace (output.writeTo fs directory stem).1 directory stem place) :
    (output.writeTo fs directory stem).1.node? place = fs.node? place ∨
      (fs.node? place = none ∧
        (output.writeTo fs directory stem).1.node? place = some .directory) := by
  have hadds := fs.addsDirectories_makeDirectories ⟨directory⟩
  rcases output.failsAt_or_succeeds fs directory stem with
    ⟨step, fault, fs', hfails⟩ | ⟨fs', hsucceeds⟩
  · rw [hfails.writeTo_eq] at hplace ⊢
    cases hfails with
    | directory hfault | idl hfault _ =>
      rw [hfault] at hadds
      exact hadds.nodes place
    | native hmade hidl hfault =>
      rw [hmade] at hadds
      dsimp only
      rw [FileSystem.node?_of_writeText hidl fun h => hplace (.inl h)]
      exact hadds.nodes place
  · rw [hsucceeds.writeTo_eq] at hplace ⊢
    obtain ⟨hmade, hidl, hnative⟩ := hsucceeds
    rw [hmade] at hadds
    have hkeeps := FileSystem.keepsDirectories_of_writeText hnative
    dsimp only
    rw [FileSystem.node?_of_writeText hnative fun h => hplace (.inr h),
      FileSystem.node?_of_writeText hidl fun h => hplace (.inl (hkeeps.leadsTo h))]
    exact hadds.nodes place

end TypeProjection.Projection
